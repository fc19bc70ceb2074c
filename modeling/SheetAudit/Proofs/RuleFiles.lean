import Mathlib.Tactic
import SheetAudit.Proofs.EncodedTexts
import SheetAudit.Proofs.Outcome
import SheetAudit.Proofs.RuleBlocks
import SheetAudit.RuleText
import SheetAudit.Service.Http

/-!
# Rules from a file and from its text

A file of rules is read with all of its line ends made line feeds, and a text of rules that is
posted is taken as it is.  A carriage return ends a line whether or not a line feed follows, so both
have the same lines, and with them the same blocks and the same rules.
-/

namespace SheetAudit
namespace Text

/-- Line ends that become line feeds end the same lines. -/
theorem linesFrom_unifyNewlines (current cs : List Char) :
    linesFrom current (unifyNewlines cs) = linesFrom current cs := by
  induction current, cs using linesFrom.induct with
  | case1 current hempty => rfl
  | case2 current hfull => rfl
  | case3 current cs ih => rw [unifyNewlines, linesFrom_newline, linesFrom_pair, ih]
  | case4 current c cs hpair hbreak ih =>
      rw [unifyNewlines, linesFrom_break hbreak hpair]
      · by_cases hreturn : c = '\r'
        · rw [hreturn, beq_self_eq_true, if_pos rfl, linesFrom_newline, ih]
        · rw [if_neg (by simpa using hreturn), linesFrom_break hbreak, ih]
          intro later hc
          exact absurd hc hreturn
      · exact hpair
  | case5 current c cs hpair hplain ih =>
      have hreturn : c ≠ '\r' := by
        rintro rfl
        exact hplain rfl
      have hbreak : isLineBreak c = false := by simpa using hplain
      rw [unifyNewlines, if_neg (by simpa using hreturn), linesFrom_cons_plain hbreak,
        linesFrom_cons_plain hbreak, ih]
      exact hpair

theorem lines_unifyNewlines (text : String) :
    lines (String.ofList (unifyNewlines text.toList)) = lines text := by
  rw [lines, lines, String.toList_ofList, linesFrom_unifyNewlines]

theorem return_notMem_unifyNewlines (cs : List Char) : '\r' ∉ unifyNewlines cs := by
  induction cs using unifyNewlines.induct with
  | case1 => simp [unifyNewlines]
  | case2 rest ih => simpa [unifyNewlines] using ih
  | case3 c rest hpair ih =>
      rw [unifyNewlines]
      · by_cases hreturn : c = '\r'
        · simpa [hreturn] using ih
        · rw [if_neg (by simpa using hreturn), List.mem_cons, not_or]
          exact ⟨Ne.symm hreturn, ih⟩
      · exact hpair

end Text

namespace RuleText

open Outcome Text

variable {folder : Folder} {path text : String}

theorem textOfBytes_utf8Bytes (text : String) :
    textOfBytes (utf8Bytes text) = .ok (String.ofList (unifyNewlines text.toList)) := by
  rw [textOfBytes, decode_utf8Bytes]
  rfl

theorem blocks_unifyNewlines (text : String) :
    blocks (String.ofList (unifyNewlines text.toList)) = blocks text := by
  rw [blocks, blocks, lines_unifyNewlines]

theorem Draft.ofFile_of_find (hfile : folder.find path = .ok (.bytes (utf8Bytes text))) :
    Draft.ofFile folder path = .ok (Draft.ofText text) := by
  have hbytes : folder.bytesAt path = .ok (utf8Bytes text) := by
    rw [Folder.bytesAt, hfile]
    rfl
  rw [Draft.ofFile, hbytes, mapError_ok, ok_bind, textOfBytes_utf8Bytes, ok_bind, pure_eq_ok,
    Draft.ofText, blocks_unifyNewlines]
  rfl

/-- A file that holds a text in UTF-8 gives, bound to any template, the rules of that text, which
are also the rules that the service answers with when the text is posted.  The text that is read
from the file has no carriage return left, and yet the same lines and the same blocks. -/
theorem Draft.ofFile_eq_ofText (hfile : folder.find path = .ok (.bytes (utf8Bytes text)))
    (templateId : Option Int) :
    (∃ rules, (Draft.ofFile folder path).map (List.map (Draft.bind templateId none)) = .ok rules ∧
      rules = (Draft.ofText text).map (Draft.bind templateId none) ∧
      (rules ≠ [] → Service.answerRules ⟨text, templateId⟩ =
        .ok (.object [("imported", .int rules.length), ("rules", .array (rules.map .ofRule))]))) ∧
    ∃ read, textOfBytes (utf8Bytes text) = .ok read ∧ '\r' ∉ read.toList ∧
      lines read = lines text ∧ blocks read = blocks text := by
  constructor
  · refine ⟨_, by rw [ofFile_of_find hfile]; rfl, rfl, ?_⟩
    intro hsome
    have hfull : ¬ ((Draft.ofText text).map (Draft.bind templateId none)).isEmpty = true := by
      rwa [List.isEmpty_iff]
    rw [Service.answerRules, if_neg hfull]
  · refine ⟨_, textOfBytes_utf8Bytes text, ?_, lines_unifyNewlines text, blocks_unifyNewlines text⟩
    rw [String.toList_ofList]
    exact return_notMem_unifyNewlines text.toList

theorem Draft.ofFile_eq_ofText_mixed_breaks :
    let text := "FIELD: é\r\nRULE: required\rCONDITION: not_empty\n\rERROR: none\r\r\n---\rFIELD: b"
    let folder : Folder := ⟨[(["rules.txt"], .bytes (utf8Bytes text))]⟩
    let rules : List Rule :=
      [⟨none, some 7, none, "required", "é", "not_empty", "none", .error⟩]
    folder.find "rules.txt" = .ok (.bytes (utf8Bytes text)) ∧
      (Draft.ofFile folder "rules.txt").map (List.map (Draft.bind (some 7) none)) = .ok rules ∧
      Service.answerRules ⟨text, some 7⟩ =
        .ok (.object [("imported", .int 1), ("rules", .array (rules.map .ofRule))]) := by
  intro text folder rules
  have hnull : "rules.txt".contains '\x00' = false := by simp
  have hroot : ("rules.txt".isEmpty || "rules.txt".startsWith "/") = false := by decide +kernel
  have hparts : Folder.parts "rules.txt" = ["rules.txt"] := by decide +kernel
  have hfile : folder.find "rules.txt" = .ok (.bytes (utf8Bytes text)) := by
    rw [Folder.find, hnull, hroot, hparts]
    simp [folder, Folder.follow, Folder.contentAt?]
    rfl
  obtain ⟨⟨found, hfound, htext, hanswer⟩, -⟩ := ofFile_eq_ofText hfile (some 7)
  have hrules : found = rules := by
    rw [htext]
    decide +kernel
  rw [hrules] at hfound hanswer
  exact ⟨hfile, hfound, hanswer (by simp [rules])⟩

end RuleText
end SheetAudit
