import Mathlib.Data.List.Infix
import StatusBar.Label

/-!
# Replacing a token

A scan from left to right cuts a text at the occurrences of a token that it meets. What lies between
them are the pieces of the text: no occurrence begins inside a piece, and the last piece has none at
all (`IsScan`). A text has pieces and they are the only ones (`exists_isScan`, `IsScan.unique`), and
to replace the token is to join them with something else (`replaceChars_intercalate`).

Two pieces that come to lie beside the new value may make up the token with it, and then the token
is in the text again. They do not if the value has a character and none of the token's
(`not_infix_intercalate`).
-/

namespace StatusBar.Text

/-- The token does not begin inside the piece, when it stands right behind it. -/
def IsFree (token piece : List Char) : Prop :=
  ∀ before after, piece ++ token = before ++ token ++ after → before = piece

/-- The pieces of a text between the occurrences of a token, as a scan from left to right cuts
them. -/
inductive IsScan (token : List Char) : List (List Char) → Prop where
  | last {piece} : ¬ token <:+: piece → IsScan token [piece]
  | meet {piece pieces} : IsFree token piece → IsScan token pieces →
      IsScan token (piece :: pieces)

variable {token value cs rest piece : List Char} {pieces : List (List Char)} {t c : Char}
  {ts : List Char}

/-! ### Occurrences -/

/-- A text goes on behind the token exactly if it begins with it. -/
theorem isSome_afterToken?_iff : (afterToken? token cs).isSome = true ↔ token <+: cs := by
  simp only [Option.isSome_iff_exists, afterToken?_eq_some_iff]
  constructor
  · rintro ⟨rest, rfl⟩
    exact List.prefix_append _ _
  · rintro ⟨rest, rfl⟩
    exact ⟨rest, rfl⟩

theorem hasToken_iff : hasToken token cs = true ↔ token <:+: cs := by
  induction cs with
  | nil => simp [hasToken]
  | cons c cs ih =>
    rw [hasToken, Bool.or_eq_true, isSome_afterToken?_iff, ih, List.infix_cons_iff]

theorem contains_iff {text token : String} :
    contains text token = true ↔ token.toList <:+: text.toList := hasToken_iff

theorem IsFree.tail (h : IsFree token (c :: piece)) : IsFree token piece := by
  intro before after heq
  have hcons : c :: piece ++ token = (c :: before) ++ token ++ after := by
    simp only [List.cons_append, heq]
  exact (List.cons.inj (h _ _ hcons)).2

/-- Nothing but the piece comes before the token behind it. -/
theorem IsFree.not_prefix (h : IsFree token (c :: piece)) (rest : List Char) :
    ¬ token <+: c :: (piece ++ token ++ rest) := by
  intro hprefix
  have hwhole : c :: piece ++ token <+: c :: (piece ++ token ++ rest) :=
    ⟨rest, by simp⟩
  have hlength : token.length ≤ (c :: piece ++ token).length := by
    simp only [List.length_append, List.length_cons]
    omega
  obtain ⟨after, hafter⟩ := List.prefix_of_prefix_length_le hprefix hwhole hlength
  exact absurd (h [] after (by simpa using hafter.symm)) (by simp)

/-- A piece of a scan does not have the token. -/
theorem IsFree.not_infix (h : IsFree token piece) (hne : token ≠ []) : ¬ token <:+: piece := by
  rintro ⟨before, after, hpiece⟩
  have hbefore := h before (after ++ token) (by rw [← hpiece]; simp)
  have hlength := congrArg List.length hpiece
  rw [hbefore] at hlength
  have hpositive := List.length_pos_iff.mpr hne
  simp only [List.length_append] at hlength
  omega

/-- A token that occurs has a first occurrence. -/
theorem exists_isFree (h : token <:+: cs) :
    ∃ piece rest, cs = piece ++ token ++ rest ∧ IsFree token piece := by
  induction cs with
  | nil =>
    obtain rfl := List.infix_nil.mp h
    exact ⟨[], [], rfl, fun before after heq => (by simpa using heq : _ ∧ _).1⟩
  | cons c cs ih =>
    by_cases hprefix : token <+: c :: cs
    · obtain ⟨rest, hrest⟩ := hprefix
      refine ⟨[], rest, by simpa using hrest.symm, fun before after heq => ?_⟩
      have hlength := congrArg List.length heq
      simp only [List.length_append, List.length_nil] at hlength
      exact List.length_eq_zero_iff.mp (by omega)
    · obtain ⟨piece, rest, rfl, hfree⟩ := ih ((List.infix_cons_iff.mp h).resolve_left hprefix)
      refine ⟨c :: piece, rest, by simp, fun before after heq => ?_⟩
      cases before with
      | nil =>
        -- the token would begin where the text does
        refine absurd ?_ hprefix
        exact ⟨after ++ rest, by simpa using congrArg (· ++ rest) heq.symm⟩
      | cons b before =>
        obtain ⟨rfl, htail⟩ := List.cons.inj heq
        rw [hfree before after htail]

/-! ### Scans -/

theorem IsScan.ne_nil (h : IsScan token pieces) : pieces ≠ [] := by
  cases h <;> exact List.cons_ne_nil _ _

theorem IsScan.intercalate_cons (h : IsScan token pieces) (sep piece : List Char) :
    sep.intercalate (piece :: pieces) = piece ++ sep ++ sep.intercalate pieces :=
  List.intercalate_cons_of_ne_nil h.ne_nil

/-- **Every text can be cut at the tokens from the left.** -/
theorem exists_isScan (hne : token ≠ []) (cs : List Char) :
    ∃ pieces, IsScan token pieces ∧ cs = token.intercalate pieces := by
  by_cases h : token <:+: cs
  · obtain ⟨piece, rest, hcs, hfree⟩ := exists_isFree h
    have hshorter : rest.length < cs.length := by
      have hpositive := List.length_pos_iff.mpr hne
      simp only [hcs, List.length_append]
      omega
    obtain ⟨pieces, hscan, hrest⟩ := exists_isScan hne rest
    exact ⟨piece :: pieces, .meet hfree hscan, by rw [hscan.intercalate_cons, ← hrest, hcs]⟩
  · exact ⟨[cs], .last h, List.intercalate_singleton.symm⟩
termination_by cs.length

/-- Of two first occurrences none is before the other. -/
theorem IsFree.eq {piece' rest' : List Char} (h : IsFree token piece) (h' : IsFree token piece')
    (heq : piece ++ token ++ rest = piece' ++ token ++ rest') : piece = piece' := by
  have hle {p q r s : List Char} (hq : IsFree token q) (hpq : p ++ token ++ r = q ++ token ++ s)
      (hlength : p.length ≤ q.length) : p = q := by
    have hp : p ++ token <+: q ++ token ++ s := ⟨r, hpq⟩
    have hq' : q ++ token <+: q ++ token ++ s := List.prefix_append _ _
    obtain ⟨after, hafter⟩ : p ++ token <+: q ++ token := by
      apply List.prefix_of_prefix_length_le hp hq'
      simp only [List.length_append]
      omega
    exact hq p after hafter.symm
  rcases Nat.le_total piece.length piece'.length with hlength | hlength
  · exact hle h' heq hlength
  · exact (hle h heq.symm hlength).symm

/-- It can be cut in this way only: the pieces have no token in them, not even one that goes on
behind their end. -/
theorem IsScan.unique {pieces' : List (List Char)} (h : IsScan token pieces)
    (h' : IsScan token pieces') (heq : token.intercalate pieces = token.intercalate pieces') :
    pieces = pieces' := by
  induction h generalizing pieces' with
  | last hlast =>
    rw [List.intercalate_singleton] at heq
    cases h' with
    | last _ => rw [heq, List.intercalate_singleton]
    | meet _ hscan' =>
      rw [hscan'.intercalate_cons] at heq
      exact absurd ⟨_, _, heq.symm⟩ hlast
  | meet hfree hscan ih =>
    rw [hscan.intercalate_cons] at heq
    cases h' with
    | last hlast' =>
      rw [List.intercalate_singleton] at heq
      exact absurd ⟨_, _, heq⟩ hlast'
    | meet hfree' hscan' =>
      rw [hscan'.intercalate_cons] at heq
      obtain rfl := hfree.eq hfree' heq
      rw [ih hscan' (List.append_cancel_left heq)]

/-! ### Replacing -/

/-- A token in front is replaced, and the search goes on behind it. -/
theorem replaceChars_token (rest : List Char) :
    replaceChars t ts value (t :: ts ++ rest) = value ++ replaceChars t ts value rest := by
  have hafter : afterToken? (t :: ts) (t :: (ts ++ rest)) = some rest :=
    afterToken?_eq_some_iff.mpr rfl
  rw [List.cons_append, replaceChars]
  split
  · rename_i after heq
    rw [hafter] at heq
    cases heq
    rfl
  · rename_i heq
    rw [hafter] at heq
    cases heq

/-- A character with which no token begins is kept. -/
theorem replaceChars_cons (h : ¬ t :: ts <+: c :: cs) :
    replaceChars t ts value (c :: cs) = c :: replaceChars t ts value cs := by
  rw [replaceChars]
  split
  · rename_i after heq
    exact absurd (isSome_afterToken?_iff.mp (by rw [heq]; rfl)) h
  · rfl

theorem replaceChars_of_not_infix (h : ¬ t :: ts <:+: cs) : replaceChars t ts value cs = cs := by
  induction cs with
  | nil => rw [replaceChars]
  | cons c cs ih =>
    rw [List.infix_cons_iff, not_or] at h
    rw [replaceChars_cons h.1, ih h.2]

/-- A piece in front of a token is kept, and the token is replaced. -/
theorem replaceChars_piece (h : IsFree (t :: ts) piece) (rest : List Char) :
    replaceChars t ts value (piece ++ (t :: ts) ++ rest) =
      piece ++ value ++ replaceChars t ts value rest := by
  induction piece with
  | nil => exact replaceChars_token rest
  | cons c piece ih =>
    simp only [List.cons_append]
    rw [replaceChars_cons (h.not_prefix rest), ih h.tail]

/-- Replacing the token is to join the pieces of the text with the value. -/
theorem replaceChars_intercalate (h : IsScan (t :: ts) pieces) :
    replaceChars t ts value ((t :: ts).intercalate pieces) = value.intercalate pieces := by
  induction h with
  | last hlast =>
    rw [List.intercalate_singleton, List.intercalate_singleton, replaceChars_of_not_infix hlast]
  | meet hfree hscan ih =>
    rw [hscan.intercalate_cons, hscan.intercalate_cons, replaceChars_piece hfree, ih]

/-- The empty token stands before every character and at the end, so the pieces between its
occurrences are the single characters, with nothing on either side. -/
theorem interleave_eq (value cs : List Char) :
    interleave value cs = value.intercalate ([] :: (cs.map ([·]) ++ [[]])) := by
  induction cs with
  | nil => simp [interleave]
  | cons c cs ih =>
    rw [interleave, ih]
    cases cs <;> simp

/-! ### What is left of the token -/

/-- A token does not reach over a character that it does not have. -/
theorem prefix_of_prefix_append_cons (h : token <+: piece ++ c :: rest) (hc : c ∉ token) :
    token <+: piece := by
  obtain ⟨after, hafter⟩ := h
  rcases List.append_eq_append_iff.mp hafter with ⟨more, hpiece, -⟩ | ⟨more, htoken, hrest⟩
  · exact ⟨more, hpiece.symm⟩
  · cases more with
    | nil => exact ⟨[], by simpa using htoken⟩
    | cons m more =>
      obtain rfl := (List.cons.inj hrest).1
      exact absurd (by simp [htoken]) hc

/-- An occurrence does not reach over a character that the token does not have. -/
theorem infix_or_infix_of_append_cons (h : token <:+: piece ++ c :: rest) (hne : token ≠ [])
    (hc : c ∉ token) : token <:+: piece ∨ token <:+: rest := by
  induction piece with
  | nil =>
    rcases List.infix_cons_iff.mp h with hprefix | hrest
    · have hnil : token <+: [] := prefix_of_prefix_append_cons hprefix hc
      exact absurd (List.prefix_nil.mp hnil) hne
    · exact .inr hrest
  | cons p piece ih =>
    rcases List.infix_cons_iff.mp h with hprefix | hrest
    · have hpiece : token <+: p :: piece := prefix_of_prefix_append_cons hprefix hc
      exact .inl hpiece.isInfix
    · exact (ih hrest).imp_left List.infix_cons

/-- A token that shares no character with the value is not found before the end of the value. -/
theorem infix_of_infix_append (hne : token ≠ []) (hvalue : ∀ c ∈ value, c ∉ token)
    (h : token <:+: value ++ rest) : token <:+: rest := by
  induction value with
  | nil => exact h
  | cons c value ih =>
    have hc : c ∉ token := hvalue c List.mem_cons_self
    have hsides : token <:+: [] ∨ token <:+: value ++ rest := infix_or_infix_of_append_cons h hne hc
    rcases hsides with hnil | hrest
    · exact absurd (List.infix_nil.mp hnil) hne
    · exact ih (fun c hmem => hvalue c (List.mem_cons_of_mem _ hmem)) hrest

/-- A value that has a character, but none of the token's, keeps the pieces apart. -/
theorem not_infix_intercalate (hne : token ≠ []) (hsome : value ≠ [])
    (hvalue : ∀ c ∈ value, c ∉ token) (h : IsScan token pieces) :
    ¬ token <:+: value.intercalate pieces := by
  induction h with
  | last hlast => rwa [List.intercalate_singleton]
  | @meet piece pieces hfree hscan ih =>
    obtain ⟨c, cs, rfl⟩ := List.exists_cons_of_ne_nil hsome
    rw [hscan.intercalate_cons, List.append_assoc]
    intro hocc
    rcases infix_or_infix_of_append_cons hocc hne (hvalue c List.mem_cons_self) with hpiece | hrest
    · exact hfree.not_infix hne hpiece
    · refine ih (infix_of_infix_append hne (fun c hmem => ?_) hrest)
      exact hvalue c (List.mem_cons_of_mem _ hmem)

end StatusBar.Text

namespace StatusBar

open Text (IsScan)

namespace Label

variable (l : Label) {token : String} (value : String)

theorem run_replaceToken (token : String) :
    (replaceToken token value).run l = ((), l.withToken token value) := by
  unfold replaceToken withToken
  simp only [StateT.run_bind, StateT.run_get, pure_bind]
  split <;> rfl

/-- **The tokens at which a text is cut are replaced by the value, and the pieces stay.** -/
theorem toList_replace (h : token ≠ "") {pieces : List (List Char)}
    (hscan : IsScan token.toList pieces) (htext : l.text.toList = token.toList.intercalate pieces) :
    (Text.replace token value l.text).toList = value.toList.intercalate pieces := by
  obtain ⟨t, ts, hcons⟩ := List.exists_cons_of_ne_nil (mt String.toList_eq_nil_iff.mp h)
  rw [hcons] at hscan htext
  simp only [Text.replace, hcons, String.toList_ofList, htext]
  exact Text.replaceChars_intercalate hscan

/-- A text without the token is not changed. -/
theorem replace_of_not_contains (h : ¬ token.toList <:+: l.text.toList) :
    Text.replace token value l.text = l.text := by
  have hne : token.toList ≠ [] := by
    intro hnil
    rw [hnil] at h
    exact h List.nil_infix
  have hscan : IsScan token.toList [l.text.toList] := .last h
  have htext := l.toList_replace value (mt String.toList_eq_nil_iff.mpr hne) hscan
    List.intercalate_singleton.symm
  rwa [List.intercalate_singleton, String.toList_inj] at htext

/-- It does not matter that the token is looked for first. -/
theorem withToken_eq (token : String) :
    l.withToken token value = { l with text := Text.replace token value l.text } := by
  unfold withToken
  split
  · rfl
  · rename_i hcontains
    rw [l.replace_of_not_contains value (mt Text.contains_iff.mpr hcontains)]

theorem withToken_of_not_contains (h : ¬ token.toList <:+: l.text.toList) :
    l.withToken token value = l := by
  rw [withToken_eq, l.replace_of_not_contains value h]

end Label

/-- **A value takes the place of the leftmost occurrences of a token.** In place or on a copy, only
the text of a label is changed. The occurrences that are replaced are those that a scan meets, and
the pieces between them are the only ones of their kind. A value with a character, but with none of
the token's, leaves nothing to replace again. -/
theorem value_replaces_leftmost (l : Label) (token value : String) :
    (Label.replaceToken token value).run l = ((), l.withToken token value) ∧
    ((·.withToken token value) <$> get : StateM Label Label).run l =
      (l.withToken token value, l) ∧
    l.withToken token value = { l with text := Text.replace token value l.text } ∧
    (¬ token.toList <:+: l.text.toList → l.withToken token value = l) ∧
    (token = "" → (l.withToken token value).text.toList =
      value.toList.intercalate ([] :: (l.text.toList.map ([·]) ++ [[]]))) ∧
    (token ≠ "" → ∃ pieces, IsScan token.toList pieces ∧
      l.text.toList = token.toList.intercalate pieces ∧
      (l.withToken token value).text.toList = value.toList.intercalate pieces ∧
      ∀ others, IsScan token.toList others →
        l.text.toList = token.toList.intercalate others → others = pieces) ∧
    (token ≠ "" → value ≠ "" → (∀ c ∈ value.toList, c ∉ token.toList) →
      ¬ token.toList <:+: (l.withToken token value).text.toList ∧
      (l.withToken token value).withToken token value = l.withToken token value) := by
  have hpieces (hne : token ≠ "") : ∃ pieces, IsScan token.toList pieces ∧
      l.text.toList = token.toList.intercalate pieces ∧
      (l.withToken token value).text.toList = value.toList.intercalate pieces := by
    have hchars : token.toList ≠ [] := mt String.toList_eq_nil_iff.mp hne
    obtain ⟨pieces, hscan, htext⟩ := Text.exists_isScan hchars l.text.toList
    refine ⟨pieces, hscan, htext, ?_⟩
    rw [l.withToken_eq]
    exact l.toList_replace value hne hscan htext
  refine ⟨l.run_replaceToken value token, rfl, l.withToken_eq value token,
    l.withToken_of_not_contains value, ?_, ?_, ?_⟩
  · rintro rfl
    rw [l.withToken_eq, ← Text.interleave_eq]
    exact String.toList_ofList
  · intro hne
    obtain ⟨pieces, hscan, htext, hresult⟩ := hpieces hne
    refine ⟨pieces, hscan, htext, hresult, fun others hothers htext' => ?_⟩
    exact hothers.unique hscan (htext'.symm.trans htext)
  · intro hne hsome hvalue
    obtain ⟨pieces, hscan, -, hresult⟩ := hpieces hne
    have hgone : ¬ token.toList <:+: (l.withToken token value).text.toList := by
      rw [hresult]
      apply Text.not_infix_intercalate _ _ hvalue hscan
      · exact mt String.toList_eq_nil_iff.mp hne
      · exact mt String.toList_eq_nil_iff.mp hsome
    exact ⟨hgone, (l.withToken token value).withToken_of_not_contains value hgone⟩

/-- The first two of three signs are the token, and not the last two. -/
theorem value_replaces_leftmost_overlapping :
    let l : Label := { text := "%%%é%%", padding := 1 }
    let l' : Label := { text := "ab%éab", padding := 1 }
    "%%" ≠ "" ∧ "ab" ≠ "" ∧ (∀ c ∈ "ab".toList, c ∉ "%%".toList) ∧
      l.withToken "%%" "ab" = l' ∧ (Label.replaceToken "%%" "ab").run l = ((), l') ∧
      l'.withToken "%%" "ab" = l' ∧
      ∃ pieces, IsScan "%%".toList pieces ∧ l'.text.toList = "ab".toList.intercalate pieces := by
  intro l l'
  have hdisjoint : ∀ c ∈ "ab".toList, c ∉ "%%".toList := by simp
  obtain ⟨hplace, -, -, -, -, hpieces, hgone⟩ := value_replaces_leftmost l "%%" "ab"
  have hl' : l.withToken "%%" "ab" = l' := by decide +kernel
  rw [hl'] at hplace hgone
  obtain ⟨pieces, hscan, -, hresult, -⟩ := hpieces (by decide)
  rw [hl'] at hresult
  exact ⟨by decide, by decide, hdisjoint, hl', hplace, (hgone (by decide) (by decide) hdisjoint).2,
    pieces, hscan, hresult⟩

end StatusBar
