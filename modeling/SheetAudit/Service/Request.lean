import SheetAudit.Audit.Submission
import SheetAudit.RuleText
import SheetAudit.Service.Lenient

/-!
# Bodies of requests

What a request asks for, as its body describes it.  Drafted rules are bound to a template and a
sheet that a document names; the names are only looked at when there is a rule to bind.
-/

namespace SheetAudit.Service

def listOf {α : Type} (read : Json → Checked α) : Json → Checked (List α)
  | .array items =>
    Checked.all (items.mapIdx fun index item => Checked.under (.index index) (read item))
  | _ => .fail .listType

/-- Bind an index to the name of a sheet: in the place of an old binding, otherwise last. -/
def bindSheet (binding : Int × Option SheetId) : SheetIds → SheetIds
  | [] => [binding]
  | other :: others =>
    if other.1 = binding.1 then binding :: others else other :: bindSheet binding others

/-- The index that a name stands for and the sheet's name that it is given. -/
def sheetBindingOf (member : String × Json) : Checked (Int × Option SheetId) :=
  Checked.under (.name member.1) <|
    (pure (fun index id => (index, some id)) : Checked _)
      |>.andAlso (Checked.under (.name "[key]") (intOf (.text member.1)))
      |>.andAlso (sheetIdOf member.2)

def sheetIdsOf : Json → Checked SheetIds
  | .object members => do
    let bindings ← Checked.all (members.map sheetBindingOf)
    pure (bindings.foldl (fun ids binding => bindSheet binding ids) [])
  | _ => .fail .dictType

structure AuditRequest where
  path : Option String
  submissionId : Option Int
  rules : List Rule
  sheetIds : Option SheetIds

def AuditRequest.ofJson : Json → Checked AuditRequest
  | .object members =>
    (pure AuditRequest.mk : Checked _)
      |>.andAlso (memberOr "file_path" none (nullable textOf) members)
      |>.andAlso (memberOr "submission_id" none (nullable intOf) members)
      |>.andAlso (memberOr "rules" [] (listOf (ruleOf .modelAttributesType)) members)
      |>.andAlso (memberOr "sheet_ids" none (nullable sheetIdsOf) members)
  | _ => .fail .modelAttributesType

structure RulesRequest where
  text : String
  templateId : Option Int

def RulesRequest.ofJson : Json → Checked RulesRequest
  | .object members =>
    (pure RulesRequest.mk : Checked _)
      |>.andAlso (requiredMember "rules_text" textOf members)
      |>.andAlso (memberOr "template_id" none (nullable intOf) members)
  | _ => .fail .modelAttributesType

structure TablesRequest where
  path : Option String

def TablesRequest.ofJson : Json → Checked TablesRequest
  | .object members =>
    (pure TablesRequest.mk : Checked _)
      |>.andAlso (memberOr "file_path" none (nullable textOf) members)
  | _ => .fail .modelAttributesType

open RuleText

/-! ## Drafted rules -/

/-- The rule that a draft becomes with the members of a document. -/
def boundRule (members : List (String × Json)) (draft : Draft) : Checked Rule :=
  (pure (fun templateId sheetId => draft.bind templateId sheetId) : Checked _)
    |>.andAlso (memberOr "template_id" none (nullable intOf) members)
    |>.andAlso (memberOr "sheet_id" none (nullable sheetIdOf) members)

/-- The rules that drafts become with the members of a document, or the problems of the first. -/
def boundRules (members : List (String × Json)) : List Draft → Checked (List Rule)
  | [] => pure []
  | draft :: drafts => do
    let rule ← boundRule members draft
    let rules ← boundRules members drafts
    pure (rule :: rules)

end SheetAudit.Service
