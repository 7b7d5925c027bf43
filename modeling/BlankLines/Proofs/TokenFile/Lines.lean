import BlankLines.Proofs.TokenFile.Text
import Mathlib.Algebra.BigOperators.Intervals

/-!
Files whose lines follow their text. In such a file the lines between two tokens are the line endings
between them, and every revision of the file is such a file again.
-/
namespace BlankLines.TokenFile

def breaksOf (file : TokenFile) (position : Nat) : Nat :=
  file.tokens[position]?.elim 0 file.breaksIn

/-- How many line endings the token at a position is laid out with after corrections. -/
def breaksAfter (file : TokenFile) (corrections : List Correction) (position : Nat) : Nat :=
  file.tokens[position]?.elim 0 fun token =>
    (file.slotAt corrections position token).breaks file.eol

/-- Every line is the line before it and the line endings there. The first token may be on any line. -/
def Counted (file : TokenFile) : Prop :=
  file.tokens.IsChain fun before after => after.line = before.line + file.breaksIn before

/-- There is a line ending, and lines follow the text. -/
structure Lined (file : TokenFile) : Prop where
  eol_ne : file.eol ≠ ""
  counted : file.Counted

/-- Lines follow the text, and tokens hold a line ending at most once and only at their end. -/
structure LaidOut (file : TokenFile) : Prop extends Lined file where
  closing : ∀ token ∈ file.tokens, Text.OnlyAtEnd file.eol.toList token.content.toList

/-- Lines follow the text, and white space holds a line ending at most once and only at its end. Solid
tokens may hold any number. -/
structure Measured (file : TokenFile) : Prop extends Lined file where
  closing : ∀ token ∈ file.tokens, token.isWhitespace = true →
    Text.OnlyAtEnd file.eol.toList token.content.toList

/-- Every line is 1 and the line endings in the text before. -/
def LineTrue (file : TokenFile) : Prop :=
  ∀ position token, file.tokens[position]? = some token → token.line = 1 + file.breaksBefore position

def LinesBelow (file : TokenFile) (bound : Nat) : Prop :=
  ∀ token ∈ file.tokens, token.line < bound

instance (file : TokenFile) : Decidable file.Counted :=
  inferInstanceAs (Decidable (file.tokens.IsChain _))

instance (file : TokenFile) : Decidable file.LineTrue :=
  decidable_of_iff (∀ pair ∈ file.tokens.zipIdx, pair.1.line = 1 + file.breaksBefore pair.2)
    ⟨fun lines position token found => lines (token, position) (List.mk_mem_zipIdx_iff_getElem?.mpr found),
      fun lines pair member => lines pair.2 pair.1 (List.mk_mem_zipIdx_iff_getElem?.mp member)⟩

instance (file : TokenFile) : Decidable file.LaidOut :=
  decidable_of_iff (file.eol ≠ "" ∧
      (∀ token ∈ file.tokens, Text.OnlyAtEnd file.eol.toList token.content.toList) ∧ file.Counted)
    ⟨fun ⟨nonempty, closing, counted⟩ => ⟨⟨nonempty, counted⟩, closing⟩,
      fun laidOut => ⟨laidOut.eol_ne, laidOut.closing, laidOut.counted⟩⟩

instance (file : TokenFile) (bound : Nat) : Decidable (file.LinesBelow bound) :=
  inferInstanceAs (Decidable (∀ token ∈ file.tokens, token.line < bound))

variable {file : TokenFile} {corrections : List Correction} {low high : Nat} {first last : Token}

/-- The positions from `low` up to, and without, `high` hold nothing but white space. -/
def BlankFrom (file : TokenFile) (low high : Nat) : Prop :=
  ∀ position, low ≤ position → position < high →
    ∀ token, file.tokens[position]? = some token → token.isWhitespace = true

instance (file : TokenFile) (low high : Nat) : Decidable (file.BlankFrom low high) :=
  decidable_of_iff (∀ position < high, low ≤ position →
      file.tokens[position]?.all (·.isWhitespace) = true)
    ⟨fun blank position above below =>
        (Option.all_eq_true _ _).mp (blank position below above),
      fun blank position below above =>
        (Option.all_eq_true _ _).mpr (blank position above below)⟩

theorem LinesBelow.lineDelta_eq (small : file.LinesBelow Word.half)
    (begins : file.tokens[low]? = some first) (ends : file.tokens[high]? = some last) :
    last.lineDelta first = (last.line : Int) - first.line := by
  rw [Token.lineDelta, Word.signed_of_lt (small first (List.mem_of_getElem? begins)),
    Word.signed_of_lt (small last (List.mem_of_getElem? ends))]

theorem breaksOf_pos_iff {position : Nat} : 0 < file.breaksOf position ↔
    ∃ token, file.tokens[position]? = some token ∧ file.endsLine token = true := by
  cases found : file.tokens[position]? with
  | none => simp [breaksOf, found]
  | some token => simp [breaksOf, found, breaksIn, Text.breakCount_pos_iff, endsLine]

theorem breaksAt_of_breaksOf {position : Nat} (none : file.breaksOf position = 0) :
    file.breaksAt position = false := by
  rw [Bool.eq_false_iff, ne_eq, breaksAt_iff]
  rintro ⟨token, found, _, ends⟩
  exact (breaksOf_pos_iff.mpr ⟨token, found, ends⟩).ne' none

theorem Counted.line_add (counted : file.Counted) (order : low ≤ high)
    (begins : file.tokens[low]? = some first) (ends : file.tokens[high]? = some last) :
    last.line = first.line + ∑ position ∈ Finset.Ico low high, file.breaksOf position := by
  induction high, order using Nat.le_induction generalizing last with
  | base => simp_all
  | succ high order ih =>
    obtain ⟨inside, rfl⟩ := List.getElem?_eq_some_iff.mp ends
    have before : file.tokens[high]? = some file.tokens[high] := List.getElem?_eq_getElem (by omega)
    have step := List.isChain_iff_getElem.mp counted high inside
    rw [step, ih before, Finset.sum_Ico_succ_top order, breaksOf, before, Nat.add_assoc]
    rfl

theorem Measured.breaksOf_blank (measured : file.Measured) {position : Nat}
    (blank : ∀ token, file.tokens[position]? = some token → token.isWhitespace = true) :
    file.breaksOf position = if file.breaksAt position then 1 else 0 := by
  have mark : file.eol.toList ≠ [] := by simpa using measured.eol_ne
  cases found : file.tokens[position]? with
  | none => simp [breaksOf, breaksAt, found]
  | some token =>
    have closing := measured.closing token (List.mem_of_getElem? found) (blank token found)
    simp [breaksOf, breaksAt, found, blank token found, breaksIn, endsLine,
      Text.breakCount_of_onlyAtEnd mark closing]

theorem Measured.length_lineBreaks (measured : file.Measured) (order : low ≤ high)
    (blank : file.BlankFrom low high) :
    (file.lineBreaks low high).length = ∑ position ∈ Finset.Ico low high, file.breaksOf position := by
  induction high, order using Nat.le_induction with
  | base => simp [lineBreaks_eq]
  | succ high order ih =>
    have earlier := ih fun position above below => blank position above (by omega)
    have here := measured.breaksOf_blank (blank high order (by omega))
    have single : (file.lineBreaks high (high + 1)).length = file.breaksOf high := by
      rw [here, lineBreaks_eq, Nat.add_sub_cancel_left]
      cases breaks : file.breaksAt high <;> simp [breaks]
    rw [← lineBreaks_append file order (Nat.le_succ high), List.length_append, earlier, single,
      Finset.sum_Ico_succ_top order]

namespace LaidOut

theorem mark_ne (laidOut : file.LaidOut) : file.eol.toList ≠ [] := by
  simpa using laidOut.eol_ne

theorem measured (laidOut : file.LaidOut) : file.Measured :=
  ⟨laidOut.toLined, fun token member _ => laidOut.closing token member⟩

/-- Corrections do not put a line ending into the text of a solid token. -/
theorem closing_slotAt (laidOut : file.LaidOut) {position : Nat} {token : Token}
    (found : file.tokens[position]? = some token) (solid : token.isWhitespace = false) :
    Text.OnlyAtEnd file.eol.toList
      (file.slotAt corrections position token).token.content.toList := by
  rw [slotAt_content solid]
  split
  · exact Text.onlyAtEnd_nil _
  · exact laidOut.closing token (List.mem_of_getElem? found)

/-- Corrections leave a token with its line endings, unless one of them deletes it, and with one more
for each insertion that no deletion follows. -/
theorem breaksAfter_eq (laidOut : file.LaidOut) {position : Nat} {token : Token}
    (found : file.tokens[position]? = some token) :
    file.breaksAfter corrections position =
      (if (corrections.filter (·.position = position)).any (·.isDelete) then 0
        else file.breaksOf position) + lastingInserts (corrections.filter (·.position = position)) := by
  have mark := laidOut.mark_ne
  rw [breaksAfter, breaksOf, found, Option.elim_some, Option.elim_some,
    ← Slot.breakCount_text laidOut.eol_ne
      (fun solid => laidOut.closing_slotAt found ((slotAt_white ..).symm.trans solid)),
    slotAt, Slot.text_foldl_edit, Slot.text_mk, String.toList_append, Slot.toList_join_replicate]
  split
  · exact (Text.breakCount_append_marks mark (Text.onlyAtEnd_nil _) _).trans
      (by rw [Text.breakCount_nil mark])
  · exact Text.breakCount_append_marks mark
      (laidOut.closing token (List.mem_of_getElem? found)) _

theorem breaksAfter_kept (laidOut : file.LaidOut) {position : Nat} {token : Token}
    (found : file.tokens[position]? = some token) (kept : .delete position ∉ corrections) :
    file.breaksAfter corrections position =
      file.breaksOf position + (corrections.filter (·.position = position)).length := by
  have inserts : (corrections.filter (·.position = position)).any (·.isDelete) = false := by
    rw [← Bool.not_eq_true, any_isDelete_iff]
    exact kept
  rw [laidOut.breaksAfter_eq found, inserts, if_neg Bool.false_ne_true,
    lastingInserts_eq_length inserts]

theorem breaksOf_le_breaksAfter (laidOut : file.LaidOut) {position : Nat}
    (kept : .delete position ∉ corrections) :
    file.breaksOf position ≤ file.breaksAfter corrections position := by
  cases found : file.tokens[position]? with
  | none =>
    rw [breaksOf, found]
    exact Nat.zero_le _
  | some token =>
    rw [laidOut.breaksAfter_kept found kept]
    exact Nat.le_add_right _ _

/-- Where nothing is deleted, more corrections leave more line endings. -/
theorem breaksAfter_mono (laidOut : file.LaidOut) {fewer : List Correction} {position : Nat}
    (kept : .delete position ∉ corrections) (part : fewer.Sublist corrections) :
    file.breaksAfter fewer position ≤ file.breaksAfter corrections position := by
  cases found : file.tokens[position]? with
  | none =>
    rw [breaksAfter, found]
    exact Nat.zero_le _
  | some token =>
    rw [laidOut.breaksAfter_kept found kept,
      laidOut.breaksAfter_kept found fun deleted => kept (part.subset deleted)]
    exact Nat.add_le_add_left (part.filter _).length_le _

end LaidOut

theorem sum_take_map {α : Type} (size : α → Nat) (items : List α) (count : Nat) :
    ((items.take count).map size).sum =
      ∑ position ∈ Finset.range count, items[position]?.elim 0 size := by
  induction count with
  | zero => rfl
  | succ count ih =>
    rw [Finset.sum_range_succ, List.take_add_one, List.map_append, List.sum_append, ih]
    cases items[count]? <;> simp

theorem breaksBefore_eq_sum (file : TokenFile) (position : Nat) :
    file.breaksBefore position = ∑ earlier ∈ Finset.range position, file.breaksOf earlier :=
  sum_take_map _ _ _

/-- A file is numbered by its text from the line of its first token on, and that line is 1. -/
theorem lineTrue_iff : file.LineTrue ↔
    file.Counted ∧ ∀ token, file.tokens.head? = some token → token.line = 1 := by
  constructor
  · intro lines
    refine ⟨List.isChain_iff_getElem.mpr fun position inside => ?_, fun token begins => ?_⟩
    · have here : file.tokens[position]? = some file.tokens[position] :=
        List.getElem?_eq_getElem (by omega)
      have next := lines (position + 1) _ (List.getElem?_eq_getElem inside)
      rw [breaksBefore_eq_sum, Finset.sum_range_succ, ← breaksBefore_eq_sum, breaksOf, here,
        ← Nat.add_assoc, ← lines position _ here] at next
      exact next
    · rw [List.head?_eq_getElem?] at begins
      exact lines 0 token begins
  · rintro ⟨counted, begins⟩ position token found
    obtain ⟨inside, _⟩ := List.getElem?_eq_some_iff.mp found
    have first : file.tokens[0]? = some file.tokens[0] := List.getElem?_eq_getElem (by omega)
    rw [counted.line_add (Nat.zero_le position) first found, breaksBefore_eq_sum,
      begins _ (List.head?_eq_getElem?.trans first), Finset.range_eq_Ico]

theorem LineTrue.counted (lines : file.LineTrue) : file.Counted :=
  (lineTrue_iff.mp lines).1

theorem movedLine_add (corrections : List Correction) (nonempty : file.eol ≠ "") (order : low ≤ high)
    (begins : file.tokens[low]? = some first) (ends : file.tokens[high]? = some last)
    (solidFirst : first.isWhitespace = false) (solidLast : last.isWhitespace = false) :
    file.movedLine corrections high = file.movedLine corrections low +
      ∑ position ∈ Finset.Ico low high, file.breaksAfter corrections position := by
  have before {place : Nat} {token : Token} (found : file.tokens[place]? = some token)
      (solid : token.isWhitespace = false) :
      (ofSlots file.eol (file.slots corrections)).breaksBefore (file.moved corrections place) =
        ∑ position ∈ Finset.range place, file.breaksAfter corrections position := by
    have slot : (file.slots corrections)[place]? = some (file.slotAt corrections place token) := by
      rw [getElem?_slots, found, Option.map_some]
    rw [moved, breaksBefore_ofSlots nonempty slot ((slotAt_white ..).trans solid), sum_take_map]
    refine Finset.sum_congr rfl fun position _ => ?_
    rw [getElem?_slots, breaksAfter]
    cases file.tokens[position]? <;> rfl
  rw [movedLine, movedLine, before begins solidFirst, before ends solidLast,
    ← Finset.sum_range_add_sum_Ico _ order, Nat.add_assoc]

/-- A layout cuts white space, so only the texts of solid tokens have to be right beforehand. -/
theorem layout_closing {eol : String} {slot : Slot} (nonempty : eol ≠ "")
    (solid : slot.token.isWhitespace = false →
      Text.OnlyAtEnd eol.toList slot.token.content.toList) :
    ∀ token ∈ slot.layout eol, Text.OnlyAtEnd eol.toList token.content.toList := by
  intro token member
  cases kind : token.isWhitespace with
  | true => exact (Slot.layout_cut nonempty member kind).closing
  | false =>
    have isSolid : slot.token.isWhitespace = false := by
      by_contra white
      simp [Slot.layout_white (by simpa using white) token member] at kind
    obtain ⟨rest, laid, white⟩ := Slot.layout_solid eol isSolid
    rw [laid] at member
    cases List.mem_cons.mp member with
    | inl same => exact same ▸ solid isSolid
    | inr behind => simp [white token behind] at kind

theorem numberFrom_counted (eol : List Char) (line : Nat) (tokens : List Token) :
    (numberFrom eol line tokens).IsChain fun before after =>
      after.line = before.line + Text.breakCount eol before.content.toList := by
  rw [List.isChain_iff_getElem]
  intro position inside
  have here := getElem?_numberFrom eol line tokens position
  have there := getElem?_numberFrom eol line tokens (position + 1)
  rw [List.getElem?_eq_getElem (by omega), eq_comm, Option.map_eq_some_iff] at here there
  obtain ⟨before, found, same⟩ := here
  obtain ⟨after, _, same'⟩ := there
  rw [← same, ← same']
  simp [List.take_add_one, found, Nat.add_assoc]

/-- Whatever corrections are made, the finished file is laid out. -/
theorem LaidOut.revise (laidOut : file.LaidOut) (corrections : List Correction) :
    (file.revise corrections).LaidOut where
  eol_ne := laidOut.eol_ne
  closing := by
    intro token member
    obtain ⟨original, there, same⟩ := mem_renumber member
    obtain ⟨slot, listed, laid, inside, rfl⟩ := mem_ofSlots there
    rw [same]
    refine layout_closing laidOut.eol_ne ?_ laid inside
    intro solid
    obtain ⟨position, before, found, rfl⟩ := mem_slots listed
    exact laidOut.closing_slotAt found ((slotAt_white ..).symm.trans solid)
  counted := numberFrom_counted _ _ _

end BlankLines.TokenFile
