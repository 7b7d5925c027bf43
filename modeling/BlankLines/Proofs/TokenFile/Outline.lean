import BlankLines.Proofs.TokenFile.Gap
import BlankLines.Proofs.TokenFile.Recut

/-!
Files that differ in their white space only. Where the lines of both follow the text, gaps between solid
tokens abreast hold as many line breaks, however the white space there is cut. Loading a file keeps its
outline, and lines that follow the text.
-/
namespace BlankLines.TokenFile

/-- The solid tokens of a file, each scope given by the number of solid tokens before it. -/
def outline (file : TokenFile) : List Token :=
  file.solids.map fun (token, _) =>
    { token with
      scopeOpener := token.scopeOpener.map file.rank
      scopeCloser := token.scopeCloser.map file.rank }

/-- The scopes of solid tokens are at solid tokens. -/
def ScopesSolid (file : TokenFile) : Prop :=
  ∀ token ∈ file.tokens, token.isWhitespace = false →
    token.scopeOpener.all file.solidAt = true ∧ token.scopeCloser.all file.solidAt = true

/-- Both files have the same solid tokens on the same lines, and scopes that join the same ones. -/
structure SameOutline (file file' : TokenFile) : Prop where
  eol : file'.eol = file.eol
  outline : file'.outline = file.outline
  scopes : file.ScopesSolid
  scopes' : file'.ScopesSolid

/-- Tokens that differ in where their scopes are, which are abreast. -/
structure Twins (file file' : TokenFile) (token token' : Token) : Prop where
  kind : token'.kind = token.kind
  line : token'.line = token.line
  content : token'.content = token.content
  opener : Option.Rel (Abreast file file') token.scopeOpener token'.scopeOpener
  closer : Option.Rel (Abreast file file') token.scopeCloser token'.scopeCloser

instance (file : TokenFile) : Decidable file.ScopesSolid :=
  inferInstanceAs (Decidable (∀ token ∈ file.tokens, _))

instance (file file' : TokenFile) : Decidable (SameOutline file file') :=
  decidable_of_iff (file'.eol = file.eol ∧ file'.outline = file.outline ∧ file.ScopesSolid ∧
      file'.ScopesSolid)
    ⟨fun ⟨eol, outline, scopes, scopes'⟩ => ⟨eol, outline, scopes, scopes'⟩,
      fun same => ⟨same.eol, same.outline, same.scopes, same.scopes'⟩⟩

variable {file file' : TokenFile} {token token' : Token} {eol : String}
  {position position' other low low' high high' k : Nat}

section Lines

theorem numberFrom_append (mark : List Char) (line : Nat) (tokens rest : List Token) :
    numberFrom mark line (tokens ++ rest) = numberFrom mark line tokens ++
      numberFrom mark (line + (tokens.map fun token =>
        Text.breakCount mark token.content.toList).sum) rest := by
  induction tokens generalizing line with
  | nil => rfl
  | cons token tokens ih =>
    simp only [List.cons_append, numberFrom, ih, List.map_cons, List.sum_cons, Nat.add_assoc]

theorem numberFrom_eq_self {mark : List Char} {line : Nat} {tokens : List Token}
    (counted : tokens.IsChain fun before after =>
      after.line = before.line + Text.breakCount mark before.content.toList)
    (starts : ∀ token ∈ tokens.head?, token.line = line) :
    numberFrom mark line tokens = tokens := by
  induction tokens generalizing line with
  | nil => rfl
  | cons token rest ih =>
    obtain ⟨next, later⟩ := List.isChain_cons.mp counted
    have here : token.line = line := starts token rfl
    subst here
    rw [numberFrom, ih later next]

/-- White space is cut into lines that follow its text. -/
theorem numberFrom_layout (nonempty : eol ≠ "") (token : Token) :
    numberFrom eol.toList token.line (Slot.layout eol { token }) = Slot.layout eol { token } := by
  have mark : eol.toList ≠ [] := by simpa using nonempty
  cases kind : token.isWhitespace with
  | false => simp [Slot.layout, kind, Slot.blankTokens, numberFrom]
  | true =>
    have cut := cutInto_layout nonempty kind
    apply List.ext_getElem?
    intro offset
    rw [getElem?_numberFrom]
    cases found : (Slot.layout eol { token })[offset]? with
    | none => rfl
    | some piece =>
      obtain ⟨inside, _⟩ := List.getElem?_eq_some_iff.mp found
      -- Each piece before this one has another one behind it, so it ends a line.
      have ends : ((Slot.layout eol { token }).take offset).map (fun token =>
          Text.breakCount eol.toList token.content.toList) = List.replicate offset 1 := by
        rw [List.eq_replicate_iff, List.length_map, List.length_take, Nat.min_eq_left inside.le]
        refine ⟨rfl, List.forall_mem_map.mpr fun earlier member => ?_⟩
        have before : earlier ∈ (Slot.layout eol { token }).dropLast := by
          rw [List.dropLast_eq_take]
          exact List.take_subset_take_left _ (Nat.le_sub_one_of_lt inside) member
        rw [Text.breakCount_of_onlyAtEnd mark (cut.cut _ (List.mem_of_mem_take member)).closing, if_pos]
        exact Text.containsBreak_iff.mpr (cut.ended _ before).isInfix
      have line := cut.counted offset piece found
      rw [ends, List.sum_replicate_nat, Nat.mul_one, ← line]
      rfl

theorem numberFrom_cuts (nonempty : eol ≠ "") {line : Nat} {tokens : List Token}
    (counted : numberFrom eol.toList line tokens = tokens) :
    numberFrom eol.toList line (tokens.flatMap fun token => Slot.layout eol { token }) =
      tokens.flatMap fun token => Slot.layout eol { token } := by
  induction tokens generalizing line with
  | nil => rfl
  | cons token rest ih =>
    obtain ⟨here, later⟩ := List.cons.inj counted
    have here : token.line = line := by rw [← here]
    subst here
    have breaks : Slot.breaks eol { token } = Text.breakCount eol.toList token.content.toList := by
      simp [Slot.breaks]
    rw [List.flatMap_cons, numberFrom_append, numberFrom_layout nonempty, Slot.sum_layout nonempty,
      breaks, ih later]

/-- Cutting white space does not change how lines are counted. -/
theorem Counted.splitLineBreaks (counted : file.Counted) (nonempty : file.eol ≠ "") :
    file.splitLineBreaks.Counted := by
  have tokens : file.cuts.flatten = file.tokens.flatMap fun token => Slot.layout file.eol { token } := by
    rw [cuts, List.map_map, List.flatMap_def]
    rfl
  have starts : ∀ token ∈ file.tokens.head?, token.line = (file.tokens.head?.map (·.line)).getD 1 := by
    intro first found
    rw [found]
    rfl
  have numbered := numberFrom_cuts nonempty (numberFrom_eq_self counted starts)
  have chain := numberFrom_counted file.eol.toList ((file.tokens.head?.map (·.line)).getD 1)
    file.cuts.flatten
  rw [Counted, splitLineBreaks_tokens, List.isChain_map]
  rw [tokens] at chain ⊢
  rw [numbered] at chain
  exact chain

theorem Counted.measured (counted : file.Counted) (nonempty : file.eol ≠ "") :
    file.splitLineBreaks.Measured where
  eol_ne := nonempty
  closing token member white := (canonical_ofSlots nonempty _ token member white).closing
  counted := counted.splitLineBreaks nonempty

end Lines

theorem SameOutline.symm (same : SameOutline file file') : SameOutline file' file :=
  ⟨same.eol.symm, same.outline.symm, same.scopes', same.scopes⟩

/-- The lines of a gap are the line endings of its first token and its line breaks. -/
theorem Adjoin.line_eq (gap : file.Adjoin low high) (measured : file.Measured) {first last : Token}
    (begins : file.tokens[low]? = some first) (ends : file.tokens[high]? = some last) :
    last.line = first.line + file.breaksOf low + (file.lineBreaks low high).length := by
  obtain ⟨solid, _⟩ := adjoin_iff.mp gap
  rw [measured.counted.line_add gap.order.le begins ends, Finset.sum_eq_sum_Ico_succ_bot gap.order,
    ← lineBreaks_succ solid, measured.length_lineBreaks gap.order gap.blank, Nat.add_assoc]

theorem rel_of_rank {scope scope' : Option Nat} (solid : scope.all file.solidAt = true)
    (solid' : scope'.all file'.solidAt = true) (same : scope'.map file'.rank = scope.map file.rank) :
    Option.Rel (Abreast file file') scope scope' := by
  cases scope with
  | none =>
    rw [Option.map_none, Option.map_eq_none_iff] at same
    subst same
    exact .none
  | some place =>
    obtain ⟨place', rfl, rank⟩ := Option.map_eq_some_iff.mp same
    exact .some ⟨solid, solid', rank⟩

namespace SameOutline

variable (same : SameOutline file file')

include same

/-- The solid tokens that as many others come before are twins. -/
theorem exists_twin_solids (found : file.solids[k]? = some (token, position)) :
    ∃ token' position', file'.solids[k]? = some (token', position') ∧
      Twins file file' token token' := by
  have listed := congrArg (·[k]?) same.outline
  simp only [TokenFile.outline, List.getElem?_map, found, Option.map_some,
    Option.map_eq_some_iff] at listed
  obtain ⟨⟨token', position'⟩, found', agree⟩ := listed
  obtain ⟨kind, line, content, opens, closes⟩ := Token.mk.injEq .. ▸ agree
  obtain ⟨here, solid, _⟩ := getElem?_solids.mp found
  obtain ⟨here', solid', _⟩ := getElem?_solids.mp found'
  obtain ⟨opener, closer⟩ := same.scopes token (List.mem_of_getElem? here) solid
  obtain ⟨opener', closer'⟩ := same.scopes' token' (List.mem_of_getElem? here') solid'
  exact ⟨token', position', found', kind, line, content, rel_of_rank opener opener' opens,
    rel_of_rank closer closer' closes⟩

theorem exists_twin (abreast : Abreast file file' position position')
    (found : file.tokens[position]? = some token) :
    ∃ token', file'.tokens[position']? = some token' ∧ Twins file file' token token' := by
  obtain ⟨other, found', solid⟩ := solidAt_iff.mp abreast.solid
  obtain rfl := Option.some.inj (found.symm.trans found')
  obtain ⟨token', place, there, twins⟩ :=
    same.exists_twin_solids (getElem?_solids.mpr ⟨found, solid, rfl⟩)
  obtain ⟨here, solid', rank⟩ := getElem?_solids.mp there
  have solidThere : file'.solidAt place = true := solidAt_iff.mpr ⟨token', here, solid'⟩
  obtain rfl := rank_inj solidThere abreast.solid' (rank.trans abreast.rank.symm)
  exact ⟨token', here, twins⟩

theorem exists_abreast (solid : file.solidAt position = true) :
    ∃ position', Abreast file file' position position' := by
  obtain ⟨k, token, found⟩ := solidAt_iff_solids.mp solid
  obtain ⟨token', position', found', _⟩ := same.exists_twin_solids found
  exact ⟨position', .of_solids found found'⟩

theorem breaksOf_eq (abreast : Abreast file file' position position') :
    file'.breaksOf position' = file.breaksOf position := by
  obtain ⟨token, found, _⟩ := solidAt_iff.mp abreast.solid
  obtain ⟨token', found', twins⟩ := same.exists_twin abreast found
  rw [breaksOf, breaksOf, found, found', Option.elim_some, Option.elim_some, breaksIn, breaksIn,
    same.eol, twins.content]

/-- The first token of a kind, from tokens abreast on, is the same. -/
theorem exists_findNext {kind : TokenKind} {found : Nat} (solid : kind ≠ .whitespace)
    (abreast : Abreast file file' position position')
    (search : file.findNext [kind] position none false = some found) :
    ∃ found', Abreast file file' found found' ∧
      file'.findNext [kind] position' none false = some found' := by
  obtain ⟨from_start, _, ⟨token, here, wanted⟩, before⟩ := findNext_eq_some_iff.mp search
  have isSolid {token : Token} (wanted : isWanted [kind] false token = true) :
      token.isWhitespace = false := by
    rw [Token.isWhitespace, isWanted_kind.mp wanted]
    exact decide_eq_false solid
  obtain ⟨found', hit⟩ := same.exists_abreast (solidAt_iff.mpr ⟨token, here, isSolid wanted⟩)
  obtain ⟨token', here', twins⟩ := same.exists_twin hit here
  have order := hit.lt_iff abreast
  refine ⟨found', hit, findNext_eq_some_iff.mpr ⟨by omega, by simp, ⟨token', here', ?_⟩, ?_⟩⟩
  · exact isWanted_kind.mpr (twins.kind.trans (isWanted_kind.mp wanted))
  · intro place late early token' there'
    by_contra hit'
    have wanted' : isWanted [kind] false token' = true := by simpa using hit'
    obtain ⟨other, missed⟩ := same.symm.exists_abreast
      (solidAt_iff.mpr ⟨token', there', isSolid wanted'⟩)
    obtain ⟨token, there, twins'⟩ := same.symm.exists_twin missed there'
    have late' := missed.lt_iff abreast.symm
    have early' := hit.symm.lt_iff missed
    have miss := before other (by omega) ((missed.symm.lt_iff hit).mp early) token there
    rw [isWanted_kind.mpr (twins'.kind.trans (isWanted_kind.mp wanted'))] at miss
    exact Bool.noConfusion miss

/-- Between tokens abreast there are as many line breaks. -/
theorem length_lineBreaks (measured : file.Measured) (measured' : file'.Measured)
    (front : Abreast file file' low low') (back : Abreast file file' high high') (order : low ≤ high) :
    (file'.lineBreaks low' high').length = (file.lineBreaks low high).length := by
  induction high using Nat.strong_induction_on generalizing high' with
  | _ high ih =>
    rcases Nat.eq_or_lt_of_le order with here | before
    · subst here
      obtain rfl := (front.eq_iff back).mpr rfl
      simp [lineBreaks_eq]
    · obtain ⟨middle, gap, within⟩ := exists_adjoin_before front.solid back.solid before
      obtain ⟨middle', between⟩ := same.exists_abreast (adjoin_iff.mp gap).1
      have gap' := between.adjoin back gap
      have earlier := ih middle gap.order between within
      have order' : low' ≤ middle' := by
        have := between.lt_iff front
        omega
      -- In the last gap the lines, which are the same, leave as many line breaks.
      obtain ⟨first, begins, _⟩ := solidAt_iff.mp between.solid
      obtain ⟨last, ends, _⟩ := solidAt_iff.mp back.solid
      obtain ⟨first', begins', firsts⟩ := same.exists_twin between begins
      obtain ⟨last', ends', lasts⟩ := same.exists_twin back ends
      have lines := gap.line_eq measured begins ends
      have lines' := gap'.line_eq measured' begins' ends'
      have breaks := same.breaksOf_eq between
      have lineFirst := firsts.line
      have lineLast := lasts.line
      rw [← lineBreaks_append file' order' gap'.order.le, ← lineBreaks_append file within gap.order.le,
        List.length_append, List.length_append]
      omega

end SameOutline

section Split

theorem abreast_relocate (solid : file.solidAt position = true) :
    Abreast file file.splitLineBreaks position (relocate file.cuts position) := by
  obtain ⟨k, token, found⟩ := solidAt_iff_solids.mp solid
  exact .of_solids found (solids_splitLineBreaks found)

theorem ScopesSolid.splitLineBreaks (scopes : file.ScopesSolid) : file.splitLineBreaks.ScopesSolid := by
  have moved (scope : Option Nat) (solid : scope.all file.solidAt = true) :
      (scope.map (relocate file.cuts)).all file.splitLineBreaks.solidAt = true := by
    cases scope with
    | none => rfl
    | some place => exact (abreast_relocate solid).solid'
  intro token member isSolid
  obtain ⟨position, found⟩ := List.mem_iff_getElem?.mp member
  have listed := getElem?_solids.mpr ⟨found, isSolid, rfl⟩
  have inside := (List.getElem?_eq_some_iff.mp listed).1
  rw [length_solids_splitLineBreaks] at inside
  have original := List.getElem?_eq_getElem inside
  obtain ⟨here, solid, _⟩ := getElem?_solids.mp original
  rw [solids_splitLineBreaks original, Option.some.injEq, Prod.mk.injEq] at listed
  obtain ⟨opener, closer⟩ := scopes _ (List.mem_of_getElem? here) solid
  rw [← listed.1]
  exact ⟨moved _ opener, moved _ closer⟩

/-- Cutting white space leaves the outline as it is. -/
theorem outline_splitLineBreaks (scopes : file.ScopesSolid) :
    file.splitLineBreaks.outline = file.outline := by
  have moved (scope : Option Nat) (solid : scope.all file.solidAt = true) :
      (scope.map (relocate file.cuts)).map file.splitLineBreaks.rank = scope.map file.rank := by
    cases scope with
    | none => rfl
    | some place => exact congrArg some (abreast_relocate solid).rank
  apply List.ext_getElem?
  intro k
  rw [outline, outline, List.getElem?_map, List.getElem?_map]
  cases found : file.solids[k]? with
  | none =>
    have beyond := List.getElem?_eq_none_iff.mp found
    rw [List.getElem?_eq_none (by rw [length_solids_splitLineBreaks]; exact beyond)]
    rfl
  | some pair =>
    obtain ⟨token, here⟩ := pair
    obtain ⟨foundHere, solid, _⟩ := getElem?_solids.mp found
    obtain ⟨opener, closer⟩ := scopes token (List.mem_of_getElem? foundHere) solid
    rw [solids_splitLineBreaks found, Option.map_some, Option.map_some]
    simp only [rescope, moved _ opener, moved _ closer]

theorem SameOutline.splitLineBreaks (same : SameOutline file file') :
    SameOutline file.splitLineBreaks file'.splitLineBreaks where
  eol := same.eol
  outline := by
    rw [outline_splitLineBreaks same.scopes, outline_splitLineBreaks same.scopes', same.outline]
  scopes := same.scopes.splitLineBreaks
  scopes' := same.scopes'.splitLineBreaks

end Split

end BlankLines.TokenFile
