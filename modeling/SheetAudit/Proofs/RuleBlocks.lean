import Mathlib.Tactic
import SheetAudit.Proofs.LastValues

/-!
# Rules texts one below the other

A line of three dashes between two rules texts keeps them apart, however the first one ends: its
last line may or may not have a break of its own, and a carriage return at its end makes one break
with the line feed that follows.  At most a blank line more comes of it, and blank lines do not
matter to a block.
-/

namespace SheetAudit
namespace Text

variable {c : Char} {current line cs rest : List Char}

/-! ## Lines of a text -/

theorem linesFrom_nil (current : List Char) :
    linesFrom current [] = if current.isEmpty then [] else [current.reverse] := rfl

theorem linesFrom_pair (current rest : List Char) :
    linesFrom current ('\r' :: '\n' :: rest) = current.reverse :: linesFrom [] rest := rfl

theorem linesFrom_cons (hpair : ∀ later, c = '\r' → rest = '\n' :: later → False)
    (current : List Char) :
    linesFrom current (c :: rest) =
      if isLineBreak c then current.reverse :: linesFrom [] rest
      else linesFrom (c :: current) rest := by
  rw [linesFrom.eq_def]
  split
  · next hchars => cases hchars
  · next hchars =>
    cases hchars
    exact (hpair _ rfl rfl).elim
  · next hchars =>
    cases hchars
    rfl

theorem linesFrom_newline (current rest : List Char) :
    linesFrom current ('\n' :: rest) = current.reverse :: linesFrom [] rest := rfl

theorem linesFrom_break (hbreak : isLineBreak c = true)
    (hpair : ∀ later, c = '\r' → rest = '\n' :: later → False) :
    linesFrom current (c :: rest) = current.reverse :: linesFrom [] rest := by
  rw [linesFrom_cons hpair, if_pos hbreak]

theorem linesFrom_cons_plain (hplain : isLineBreak c = false) (current rest : List Char) :
    linesFrom current (c :: rest) = linesFrom (c :: current) rest := by
  rw [linesFrom_cons, if_neg (by simp [hplain])]
  rintro later rfl
  cases hplain

theorem linesFrom_plain (hline : ∀ c ∈ line, isLineBreak c = false) (current rest : List Char) :
    linesFrom current (line ++ rest) = linesFrom (line.reverse ++ current) rest := by
  induction line generalizing current with
  | nil => rfl
  | cons c line ih =>
      rw [List.forall_mem_cons] at hline
      rw [List.cons_append, linesFrom_cons_plain hline.1, ih hline.2, List.reverse_cons,
        List.append_assoc, List.singleton_append]

/-- A line feed after a text ends its last line, or an empty line after its last one. -/
theorem linesFrom_append_newline (current cs rest : List Char) :
    linesFrom current (cs ++ '\n' :: rest) = linesFrom current cs ++ linesFrom [] rest ∨
      linesFrom current (cs ++ '\n' :: rest) = linesFrom current cs ++ [] :: linesFrom [] rest := by
  induction current, cs using linesFrom.induct with
  | case1 current hempty =>
      right
      rw [List.nil_append, linesFrom_newline, linesFrom_nil, if_pos hempty,
        List.isEmpty_iff.mp hempty]
      rfl
  | case2 current hfull =>
      left
      rw [List.nil_append, linesFrom_newline, linesFrom_nil, if_neg hfull]
      rfl
  | case3 current cs ih =>
      simpa [linesFrom_pair] using ih
  | case4 current c cs hpair hbreak ih =>
      rw [linesFrom_break hbreak hpair]
      by_cases hmerge : c = '\r' ∧ cs = []
      · -- the carriage return and the line feed are one break
        left
        obtain ⟨rfl, rfl⟩ := hmerge
        rw [List.cons_append, List.nil_append, linesFrom_pair]
        rfl
      · have hstill : ∀ later, c = '\r' → cs ++ '\n' :: rest = '\n' :: later → False := by
          intro later hreturn hfeed
          cases cs with
          | nil => exact hmerge ⟨hreturn, rfl⟩
          | cons first cs =>
              cases hfeed
              exact hpair cs hreturn rfl
        rw [List.cons_append, linesFrom_break hbreak hstill]
        simpa using ih
  | case5 current c cs hpair hplain ih =>
      rw [List.cons_append, linesFrom_cons_plain (by simpa using hplain),
        linesFrom_cons_plain (by simpa using hplain)]
      exact ih

theorem lines_append_newline (text rest : String) :
    lines (text ++ "\n" ++ rest) = lines text ++ lines rest ∨
      lines (text ++ "\n" ++ rest) = lines text ++ "" :: lines rest := by
  have hchars : (text ++ "\n" ++ rest).toList = text.toList ++ '\n' :: rest.toList := by simp
  rcases linesFrom_append_newline [] text.toList rest.toList with hlines | hlines
  · left
    simp only [lines, hchars, hlines, List.map_append]
  · right
    simp only [lines, hchars, hlines, List.map_append, List.map_cons, String.ofList_nil]

/-- A line without breaks and a line feed are one line. -/
theorem lines_of_line {line : String} (hline : ∀ c ∈ line.toList, isLineBreak c = false)
    (rest : String) : lines (line ++ "\n" ++ rest) = line :: lines rest := by
  have hchars : (line ++ "\n" ++ rest).toList = line.toList ++ '\n' :: rest.toList := by simp
  rw [lines, hchars, linesFrom_plain hline, linesFrom_newline]
  simp [lines]

end Text

namespace RuleText

open Text

variable {line separator : String} {lines : List String}

/-! ## Blocks of a text -/

theorem splitLines_eq_splitOnP (lines : List String) :
    splitLines lines = lines.splitOnP isSeparator := by
  induction lines with
  | nil => rfl
  | cons line lines ih =>
      rw [splitLines, ih, List.splitOnP_cons_eq_if_modifyHead]
      cases hblocks : lines.splitOnP isSeparator with
      | nil => exact (List.splitOnP_ne_nil isSeparator lines hblocks).elim
      | cons block blocks => rfl

/-- A line below all others goes to the last block. -/
theorem exists_splitOnP_concat (hline : isSeparator line = false) (above : List String) :
    ∃ blocks last, above.splitOnP isSeparator = blocks ++ [last] ∧
      (above ++ [line]).splitOnP isSeparator = blocks ++ [last ++ [line]] := by
  induction above with
  | nil => exact ⟨[], [], rfl, List.splitOnP_eq_singleton (by simpa using hline)⟩
  | cons first above ih =>
      obtain ⟨blocks, last, hblocks, hconcat⟩ := ih
      rw [List.cons_append, List.splitOnP_cons_eq_if_modifyHead,
        List.splitOnP_cons_eq_if_modifyHead, hblocks, hconcat]
      by_cases hfirst : isSeparator first = true
      · exact ⟨[] :: blocks, last, by simp [hfirst], by simp [hfirst]⟩
      · cases blocks with
        | nil => exact ⟨[], first :: last, by simp [hfirst], by simp [hfirst]⟩
        | cons block blocks =>
            exact ⟨(first :: block) :: blocks, last, by simp [hfirst], by simp [hfirst]⟩

/-! ## Rules of the blocks -/

theorem ignored_of_isBlankLine (hblank : isBlankLine line = true) : Ignored line := by
  intro key value hassigns
  have htrim : trimChars line.toList = [] := trimChars_of_blank (List.all_eq_true.mp hblank)
  have hentry : entry? line = none := entry?_of_notMem (by simp [htrim])
  rw [entry?_eq_some_iff.mpr hassigns] at hentry
  cases hentry

/-- The rules that the blocks of some lines draft. -/
def draftsOf (lines : List String) : List Draft := (splitLines lines).filterMap Draft.ofLines?

theorem Draft.ofLines?_of_blank (hlines : ∀ line ∈ lines, isBlankLine line = true) :
    Draft.ofLines? lines = none := by
  have hvalue : value? .field lines = none := by
    rw [value?_eq_none_iff]
    intro line hline
    exact ignored_of_isBlankLine (hlines line hline) .field
  rw [ofLines?, filled?, hvalue]
  rfl

/-- Blocks of blank lines draft nothing, so leaving them out makes no difference. -/
theorem Draft.ofText_eq_draftsOf (text : String) :
    Draft.ofText text = draftsOf (Text.lines text) := by
  rw [ofText, blocks, draftsOf, List.filterMap_filter]
  apply List.filterMap_congr
  intro block _
  split
  · rfl
  · next hblank =>
    rw [Draft.ofLines?_of_blank]
    simpa using hblank

theorem draftsOf_append (hseparator : isSeparator separator = true) (above below : List String) :
    draftsOf (above ++ separator :: below) = draftsOf above ++ draftsOf below := by
  simp only [draftsOf, splitLines_eq_splitOnP, List.splitOnP_append_cons above below hseparator,
    List.filterMap_append]

/-- An empty line below all others drafts nothing. -/
theorem draftsOf_concat_empty (above : List String) :
    draftsOf (above ++ [""]) = draftsOf above := by
  have hline : isSeparator "" = false := by decide +kernel
  obtain ⟨blocks, last, hblocks, hconcat⟩ := exists_splitOnP_concat hline above
  have hlast : Draft.ofLines? (last ++ [""]) = Draft.ofLines? last := by
    apply Draft.ofLines?_congr
    intro key
    rw [linesOf_of_ignored (ignored_of_isBlankLine rfl), List.append_nil]
  simp only [draftsOf, splitLines_eq_splitOnP, hblocks, hconcat, List.filterMap_append,
    List.filterMap_cons, hlast]

theorem Draft.ofText_append_separator (text other : String) :
    Draft.ofText (text ++ "\n---\n" ++ other) = Draft.ofText text ++ Draft.ofText other := by
  have hjoined : text ++ "\n---\n" ++ other = text ++ "\n" ++ ("---" ++ "\n" ++ other) := by
    apply String.toList_inj.mp
    simp
  have hseparator : isSeparator "---" = true := by decide +kernel
  have hlower : Text.lines ("---" ++ "\n" ++ other) = "---" :: Text.lines other := by
    apply lines_of_line
    intro c hc
    have hdash : c = '-' := by simpa using hc
    rw [hdash]
    rfl
  rw [ofText_eq_draftsOf, ofText_eq_draftsOf, ofText_eq_draftsOf, hjoined]
  rcases lines_append_newline text ("---" ++ "\n" ++ other) with hlines | hlines
  · rw [hlines, hlower, draftsOf_append hseparator]
  · have hblank : Text.lines text ++ "" :: "---" :: Text.lines other =
        (Text.lines text ++ [""]) ++ "---" :: Text.lines other := by simp
    rw [hlines, hlower, hblank, draftsOf_append hseparator, draftsOf_concat_empty]

theorem Draft.ofText_append_newline (text : String) :
    Draft.ofText (text ++ "\n") = Draft.ofText text := by
  have hlines : Text.lines (text ++ "\n") = Text.lines text ∨
      Text.lines (text ++ "\n") = Text.lines text ++ [""] := by
    simpa [Text.lines, linesFrom_nil] using lines_append_newline text ""
  rw [ofText_eq_draftsOf, ofText_eq_draftsOf]
  rcases hlines with hsame | hblank
  · rw [hsame]
  · rw [hblank, draftsOf_concat_empty]

theorem Draft.ofText_of_no_separator {text : String}
    (hlines : ∀ line ∈ Text.lines text, isSeparator line = false) :
    Draft.ofText text = (Draft.ofLines? (Text.lines text)).toList := by
  rw [ofText_eq_draftsOf, draftsOf, splitLines_eq_splitOnP, List.splitOnP_eq_singleton hlines]
  cases hdraft : Draft.ofLines? (Text.lines text) <;> simp [hdraft]

/-- Two rules texts with a line of three dashes between them draft the rules of both; a text without
such a line is one block. -/
theorem Draft.ofText_block_by_block (text other : String) :
    Draft.ofText (text ++ "\n---\n" ++ other) = Draft.ofText text ++ Draft.ofText other ∧
      ((∀ line ∈ Text.lines text, isSeparator line = false) →
        Draft.ofText text = (Draft.ofLines? (Text.lines text)).toList) :=
  ⟨ofText_append_separator text other, ofText_of_no_separator⟩

end RuleText
end SheetAudit
