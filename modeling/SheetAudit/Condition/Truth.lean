import SheetAudit.Condition.Tree

/-!
# Truth of conditions

Two operands are compared as numbers if both count as numbers.  Otherwise they are equal if they
show the same text, nothing being equal only to what counts as nothing, and neither is less than
the other.  An operand alone is true if it is a number other than zero or shows a text.
-/

namespace SheetAudit.Condition

def Operand.cell (value : Cell) : Operand → Cell
  | .value => value.normalized
  | .literal cell => cell

/-- Whether a cell alone counts as true. -/
def isTrue : Cell → Except CellError Bool
  | .bool value => pure value
  | .empty => pure false
  | .text value => pure (!value.isEmpty)
  | cell => do
    match ← cell.number with
    | some number => pure (!number.isZero)
    | none => do
      let shown ← cell.shown
      pure (!shown.isEmpty)

/-- Whether two cells that are not both numbers are the same. -/
def isSame (left right : Cell) : Except CellError Bool :=
  match left, right with
  | .empty, _ | _, .empty => pure (left.isEmpty && right.isEmpty)
  | _, _ => do
    let left ← left.shown
    let right ← right.shown
    pure (left == right)

def Comparison.holds (sign : Comparison) (left right : Number) : Bool :=
  match sign with
  | .equal | .same => left.eq right
  | .notEqual => !left.eq right
  | .less => left.lt right
  | .lessOrEqual => left.le right
  | .greater => right.lt left
  | .greaterOrEqual => right.le left

def compareCells (sign : Comparison) (left right : Cell) : Except CellError Bool := do
  let leftNumber ← left.number
  let rightNumber ← right.number
  match leftNumber, rightNumber with
  | some x, some y => pure (sign.holds x y)
  | _, _ =>
    match sign with
    | .equal | .same => isSame left right
    | .notEqual => do
      let same ← isSame left right
      pure (!same)
    | _ => pure false

namespace Tree

mutual

/-- Whether a condition holds of a value.  Parts of a chain are tried in turn until one settles
it. -/
def holds (value : Cell) : Tree → Except CellError Bool
  | .operand single => isTrue (single.cell value)
  | .compare sign left right => compareCells sign (left.cell value) (right.cell value)
  | .not inner => do
    let result ← holds value inner
    pure (!result)
  | .all parts => holdsAll value parts
  | .any parts => holdsAny value parts

def holdsAll (value : Cell) : List Tree → Except CellError Bool
  | [] => pure true
  | part :: parts => do
    let result ← holds value part
    if result then holdsAll value parts else pure false

def holdsAny (value : Cell) : List Tree → Except CellError Bool
  | [] => pure false
  | part :: parts => do
    let result ← holds value part
    if result then pure true else holdsAny value parts

end

end Tree

inductive EvalError where
  | condition (cause : Error)
  | noCondition
  | cell (cause : CellError)
  deriving Repr, DecidableEq

def EvalError.message : EvalError → String
  | .condition cause => cause.message
  | .noCondition => "expected string or bytes-like object, got 'NoneType'"
  | .cell cause => cause.message

def holds (condition : Option String) (value : Cell) : Except EvalError Bool :=
  match condition with
  | none => throw .noCondition
  | some condition => do
    let tree ← (Tree.ofText condition).mapError .condition
    (tree.holds value).mapError .cell

end SheetAudit.Condition
