import ProofLedger.Proofs.Json.CodePoints
import ProofLedger.Text.Blank

/-!
# Documents with other line ends

A file may have been copied by a program that writes line ends its own way. `readWhole_newlines`:
a text that is a document in lines once its line ends are line feeds is read as that document.
The line ends of a document in lines are blanks between its tokens, so such a text spells it
(`spells_of_newlines`).
-/

namespace ProofLedger

namespace Text

/-- Text without a carriage return has its line ends as line feeds already. -/
theorem universalNewlines_eq_self {t : Text} (h : 13 ∉ t) : t.universalNewlines = t := by
  induction t with
  | nil => rfl
  | cons c r ih =>
    rw [List.mem_cons, not_or] at h
    have hc : c ≠ 13 := fun hc => h.1 hc.symm
    rw [universalNewlines, if_neg hc, ih h.2]
    exact fun _ hcr _ => hc hcr

/-- What a text becomes in two parts, it becomes from two parts. -/
theorem exists_split_newlines {t a b : Text} (h : universalNewlines t = a ++ b) :
    ∃ s r, t = s ++ r ∧ universalNewlines s = a ∧ universalNewlines r = b := by
  induction t using universalNewlines.induct generalizing a with
  | case1 =>
    obtain ⟨rfl, rfl⟩ := List.append_eq_nil_iff.mp h.symm
    exact ⟨[], [], rfl, rfl, rfl⟩
  | case2 r ih =>
    cases a with
    | nil => exact ⟨[], 13 :: 10 :: r, rfl, rfl, h⟩
    | cons x a =>
      rw [universalNewlines, List.cons_append, List.cons.injEq] at h
      obtain ⟨s, r, rfl, rfl, rfl⟩ := ih h.2
      exact ⟨13 :: 10 :: s, r, rfl, by rw [universalNewlines, h.1], rfl⟩
  | case3 c r hpair ih =>
    cases a with
    | nil => exact ⟨[], c :: r, rfl, rfl, h⟩
    | cons x a =>
      rw [universalNewlines.eq_3 c r hpair, List.cons_append, List.cons.injEq] at h
      obtain ⟨s, r, rfl, rfl, rfl⟩ := ih h.2
      have hhead : universalNewlines (c :: s) =
          (if c = 13 then 10 else c) :: universalNewlines s :=
        universalNewlines.eq_3 c s fun r' hc hs => hpair (r' ++ r) hc (by rw [hs]; rfl)
      exact ⟨c :: s, r, rfl, by rw [hhead, h.1], rfl⟩

/-- A text that becomes one without line ends is that text. -/
theorem eq_of_newlines {t a : Text} (h : universalNewlines t = a) (ha : ∀ c ∈ a, c ≠ 10) :
    t = a := by
  induction t using universalNewlines.induct generalizing a with
  | case1 => exact h
  | case2 r ih =>
    subst h
    exact absurd rfl (ha 10 List.mem_cons_self)
  | case3 c r hpair ih =>
    rw [universalNewlines.eq_3 c r hpair] at h
    subst h
    have hc : c ≠ 13 := by
      rintro rfl
      exact ha 10 List.mem_cons_self rfl
    rw [if_neg hc, ← ih rfl fun x hx => ha x (List.mem_cons_of_mem _ hx)]

/-- A text that becomes blanks is made of blanks. -/
theorem blanks_of_newlines {t b : Text} (h : universalNewlines t = b) (hb : Json.Blanks b) :
    Json.Blanks t := by
  induction t using universalNewlines.induct generalizing b with
  | case1 => exact fun _ hc => nomatch hc
  | case2 r ih =>
    subst h
    have hr := ih rfl fun x hx => hb x (List.mem_cons_of_mem _ hx)
    exact List.forall_mem_cons.mpr ⟨rfl, List.forall_mem_cons.mpr ⟨rfl, hr⟩⟩
  | case3 c r hpair ih =>
    rw [universalNewlines.eq_3 c r hpair] at h
    subst h
    have hr := ih rfl fun x hx => hb x (List.mem_cons_of_mem _ hx)
    refine List.forall_mem_cons.mpr ⟨?_, hr⟩
    by_cases hc : c = 13
    · rw [hc]
      rfl
    · have hhead := hb _ List.mem_cons_self
      rwa [if_neg hc] at hhead

end Text

namespace Json

open Text

/-- One mark in front of what a text becomes stands in front of the text. -/
theorem exists_cons_newlines {t r : Text} {c : Nat} (h : universalNewlines t = c :: r)
    (hc : c ≠ 10) : ∃ s, t = c :: s ∧ universalNewlines s = r := by
  obtain ⟨m, s, rfl, hm, hs⟩ := exists_split_newlines (a := [c]) h
  rw [eq_of_newlines hm (by simpa using hc)]
  exact ⟨s, rfl, hs⟩

/-- No string holds a line feed. -/
theorem ne_of_mem_string (t : Text) : ∀ c ∈ string t, c ≠ 10 :=
  forall_mem_string (fun c hc => by have := hc.1; omega) fun c _ hc => by omega

/-- No atom holds one. -/
theorem ne_of_mem_compact {j : Json} (hatom : ∀ g level, write g level j = compact j) :
    ∀ c ∈ compact j, c ≠ 10 := by
  rw [← hatom flat 0]
  exact forall_mem_write (fun c hc => by have := hc.1; omega) ⟨by simp [flat], by simp [flat]⟩ j
    (texts_of_forall (fun c hc => by omega) j) 0

mutual

/-- What becomes a document in lines spells the document. -/
theorem spells_of_newlines : ∀ (j : Json) (level : Nat) (t : Text),
    universalNewlines t = write inLines level j → Spells j t
  | .null, _, _, h => eq_of_newlines h (ne_of_mem_compact (j := .null) fun _ _ => rfl) ▸ .null
  | .bool true, _, _, h =>
    eq_of_newlines h (ne_of_mem_compact (j := .bool true) fun _ _ => rfl) ▸ .bool true
  | .bool false, _, _, h =>
    eq_of_newlines h (ne_of_mem_compact (j := .bool false) fun _ _ => rfl) ▸ .bool false
  | .int n, _, _, h => eq_of_newlines h (ne_of_mem_compact (j := .int n) fun _ _ => rfl) ▸ .int n
  | .double d, _, _, h =>
    eq_of_newlines h (ne_of_mem_compact (j := .double d) fun _ _ => rfl) ▸ .double d
  | .text s, _, _, h => eq_of_newlines h (ne_of_mem_string s) ▸ .text s
  | .list [], _, _, h =>
    eq_of_newlines h (ne_of_mem_compact (j := .list []) fun _ _ => rfl) ▸ .noItems
  | .list (x :: xs), level, t, h => by
    rw [write] at h
    obtain ⟨t₁, rfl, h₁⟩ := exists_cons_newlines h (by decide)
    obtain ⟨b, t₂, rfl, hb, h₂⟩ := exists_split_newlines h₁
    obtain ⟨s, r, rfl, hs, hr⟩ := exists_split_newlines h₂
    exact .items (blanks_of_newlines hb (inLines_blank.item _))
      (spells_of_newlines x (level + 1) s hs) (spellsItems_of_newlines xs level r hr)
  | .dict [], _, _, h =>
    eq_of_newlines h (ne_of_mem_compact (j := .dict []) fun _ _ => rfl) ▸ .noEntries
  | .dict ((k, v) :: es), level, t, h => by
    rw [write] at h
    obtain ⟨t₁, rfl, h₁⟩ := exists_cons_newlines h (by decide)
    obtain ⟨b, t₂, rfl, hb, h₂⟩ := exists_split_newlines h₁
    obtain ⟨q, t₃, rfl, hq, h₃⟩ := exists_split_newlines h₂
    obtain rfl := eq_of_newlines hq (ne_of_mem_string k)
    obtain ⟨t₄, rfl, h₄⟩ := exists_cons_newlines h₃ (by decide)
    obtain ⟨c, t₅, rfl, hc, h₅⟩ := exists_split_newlines h₄
    obtain ⟨s, r, rfl, hs, hr⟩ := exists_split_newlines h₅
    exact .entries (blanks_of_newlines hb (inLines_blank.item _))
      (blanks_of_newlines hc inLines_blank.colon) (spells_of_newlines v (level + 1) s hs)
      (spellsEntries_of_newlines es level r hr)

theorem spellsItems_of_newlines : ∀ (xs : List Json) (level : Nat) (t : Text),
    universalNewlines t = writeItems inLines level xs → SpellsItems xs t
  | [], level, t, h => by
    rw [writeItems] at h
    obtain ⟨b, m, rfl, hb, hm⟩ := exists_split_newlines h
    obtain rfl := eq_of_newlines hm (by simp)
    exact .nil (blanks_of_newlines hb (inLines_blank.item _))
  | x :: xs, level, t, h => by
    rw [writeItems] at h
    obtain ⟨t₁, rfl, h₁⟩ := exists_cons_newlines h (by decide)
    obtain ⟨b, t₂, rfl, hb, h₂⟩ := exists_split_newlines h₁
    obtain ⟨s, r, rfl, hs, hr⟩ := exists_split_newlines h₂
    exact .cons (blanks_of_newlines hb (inLines_blank.item _))
      (spells_of_newlines x (level + 1) s hs) (spellsItems_of_newlines xs level r hr)

theorem spellsEntries_of_newlines : ∀ (es : List (Text × Json)) (level : Nat) (t : Text),
    universalNewlines t = writeEntries inLines level es → SpellsEntries es t
  | [], level, t, h => by
    rw [writeEntries] at h
    obtain ⟨b, m, rfl, hb, hm⟩ := exists_split_newlines h
    obtain rfl := eq_of_newlines hm (by simp)
    exact .nil (blanks_of_newlines hb (inLines_blank.item _))
  | (k, v) :: es, level, t, h => by
    rw [writeEntries] at h
    obtain ⟨t₁, rfl, h₁⟩ := exists_cons_newlines h (by decide)
    obtain ⟨b, t₂, rfl, hb, h₂⟩ := exists_split_newlines h₁
    obtain ⟨q, t₃, rfl, hq, h₃⟩ := exists_split_newlines h₂
    obtain rfl := eq_of_newlines hq (ne_of_mem_string k)
    obtain ⟨t₄, rfl, h₄⟩ := exists_cons_newlines h₃ (by decide)
    obtain ⟨c, t₅, rfl, hc, h₅⟩ := exists_split_newlines h₄
    obtain ⟨s, r, rfl, hs, hr⟩ := exists_split_newlines h₅
    exact .cons (blanks_of_newlines hb (inLines_blank.item _))
      (blanks_of_newlines hc inLines_blank.colon) (spells_of_newlines v (level + 1) s hs)
      (spellsEntries_of_newlines es level r hr)

end

/-- A text that is a document in lines but for its line ends is read as that document. -/
theorem readWhole_newlines {j : Json} (hj : Faithful j) {room : Room} (hroom : room.Holds (depth j))
    {t : Text} (h : universalNewlines t = pretty j) : readWhole t room = .ok j := by
  rw [pretty, ← write_inLines] at h
  obtain ⟨s, b, rfl, hs, hb⟩ := exists_split_newlines h
  exact readWhole_spells hj hroom (spells_of_newlines j 0 s hs)
    (blanks_of_newlines hb (by simp [Blanks, isBlank]))

end Json

end ProofLedger
