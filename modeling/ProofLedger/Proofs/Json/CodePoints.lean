import ProofLedger.Proofs.Json.ReadBack
import ProofLedger.Proofs.Text.Utf8

/-!
# The code points of a written document

`forall_mem_write`: what holds of the printable ASCII characters, of the blanks of a layout and
of the texts of a document holds of every code point that is written. Two cases are used:
no carriage return is ever written (`carriageReturn_not_mem_pretty`), and a document of texts
that have octets has octets itself (`scalar_pretty`).
-/

namespace ProofLedger.Json

/-- The printable characters of ASCII. -/
def Printable (c : Nat) : Prop := 32 ≤ c ∧ c < 127

instance (c : Nat) : Decidable (Printable c) := inferInstanceAs (Decidable (_ ∧ _))

theorem printable_of_isDigit {c : Nat} (h : Text.isDigit c = true) : Printable c := by
  simp only [Text.isDigit, Bool.and_eq_true, decide_eq_true_eq] at h
  exact ⟨by omega, by omega⟩

theorem printable_ofNat (n : Nat) : ∀ c ∈ Text.ofNat n, Printable c :=
  fun c hc => printable_of_isDigit (Text.all_isDigit_ofNat n c hc)

theorem printable_ofInt (n : Int) : ∀ c ∈ Text.ofInt n, Printable c := by
  cases n with
  | ofNat n => exact printable_ofNat n
  | negSucc n =>
    intro c hc
    rcases List.mem_cons.mp hc with rfl | hc
    · decide
    · exact printable_ofNat _ c hc

theorem printable_append {s t : Text} (hs : ∀ c ∈ s, Printable c) (ht : ∀ c ∈ t, Printable c) :
    ∀ c ∈ s ++ t, Printable c :=
  fun c hc => (List.mem_append.mp hc).elim (hs c) (ht c)

theorem printable_cons {x : Nat} {t : Text} (hx : Printable x) (ht : ∀ c ∈ t, Printable c) :
    ∀ c ∈ x :: t, Printable c :=
  fun c hc => (List.mem_cons.mp hc).elim (fun h => h ▸ hx) (ht c)

theorem printable_zeros (n : Nat) : ∀ c ∈ List.replicate n 48, Printable c := by
  intro c hc
  rw [(List.mem_replicate.mp hc).2]
  decide

theorem printable_exponentText (e : Int) : ∀ c ∈ Decimal.exponentText e, Printable c := by
  have hsign : Printable (if e < 0 then 45 else 43) := by split <;> decide
  exact printable_cons (by decide)
    (printable_cons hsign (printable_append (printable_zeros _) (printable_ofNat _)))

theorem printable_decimal (d : Decimal) : ∀ c ∈ d.plain, Printable c := by
  have hdigits := printable_ofNat d.digits
  have htake : ∀ n, ∀ c ∈ (Text.ofNat d.digits).take n, Printable c :=
    fun n c hc => hdigits c (List.mem_of_mem_take hc)
  have hdrop : ∀ n, ∀ c ∈ (Text.ofNat d.digits).drop n, Printable c :=
    fun n c hc => hdigits c (List.mem_of_mem_drop hc)
  unfold Decimal.plain
  simp only
  split
  · split
    · exact printable_cons (by decide)
        (printable_cons (by decide) (printable_append (printable_zeros _) hdigits))
    · refine printable_append (printable_append (htake _) (printable_zeros _))
        (printable_cons (by decide) ?_)
      split
      · exact printable_cons (by decide) (by simp)
      · exact hdrop _
  · refine printable_append (printable_append (htake _) ?_) (printable_exponentText _)
    split
    · simp
    · exact printable_cons (by decide) (hdrop _)

theorem printable_doubleText (d : Double) : ∀ c ∈ doubleText d, Printable c := by
  have hsign : ∀ s, ∀ c ∈ Decimal.signText s false, Printable c := by decide
  have hmagnitude : ∀ r, ∀ c ∈ Double.plainMagnitude r, Printable c := by
    intro r
    unfold Double.plainMagnitude
    split
    · decide
    · split
      · decide
      · exact printable_decimal _
  unfold doubleText
  split
  · cases d with
    | nan => decide
    | number s r => exact printable_append (hsign s) (hmagnitude r.val)
  · split
    · decide
    · split
      · decide
      · decide

/-! ## Texts of a document -/

mutual

/-- Whether the keys and texts of a document consist of code points of a kind, control
characters apart. -/
def Texts (P : Nat → Prop) : Json → Prop
  | .null | .bool _ | .int _ | .double _ => True
  | .text t => ∀ c ∈ t, 32 ≤ c → P c
  | .list xs => TextsItems P xs
  | .dict es => TextsEntries P es

def TextsItems (P : Nat → Prop) : List Json → Prop
  | [] => True
  | x :: xs => Texts P x ∧ TextsItems P xs

def TextsEntries (P : Nat → Prop) : List (Text × Json) → Prop
  | [] => True
  | (k, v) :: es => (∀ c ∈ k, 32 ≤ c → P c) ∧ Texts P v ∧ TextsEntries P es

end

theorem printable_escape_control : ∀ c < 32, ∀ x ∈ escape c, Printable x := by decide

section Kinds

variable {P : Nat → Prop} (hprintable : ∀ c, Printable c → P c)
include hprintable

theorem forall_mem_escape {c : Nat} (hc : 32 ≤ c → P c) : ∀ x ∈ escape c, P x := by
  intro x hx
  by_cases hcontrol : c < 32
  · exact hprintable x (printable_escape_control c hcontrol x hx)
  · have hescape : escape c = [92, 34] ∨ escape c = [92, 92] ∨ escape c = [c] := by
      unfold escape
      repeat' split
      all_goals first | omega | simp
    have hslash : P 92 := hprintable 92 (by decide)
    have hquote : P 34 := hprintable 34 (by decide)
    have hpoint : P c := hc (by omega)
    rcases hescape with h | h | h <;> rw [h] at hx <;> simp only [List.mem_cons,
      List.not_mem_nil, or_false] at hx
    · rcases hx with rfl | rfl <;> assumption
    · rcases hx with rfl | rfl <;> assumption
    · exact hx ▸ hpoint

theorem forall_mem_string {t : Text} (ht : ∀ c ∈ t, 32 ≤ c → P c) : ∀ x ∈ string t, P x := by
  have hquote : P 34 := hprintable 34 (by decide)
  intro x hx
  rcases List.mem_cons.mp hx with rfl | hx
  · exact hquote
  · rcases List.mem_append.mp hx with hx | hx
    · obtain ⟨c, hc, hx⟩ := List.mem_flatMap.mp hx
      exact forall_mem_escape hprintable (ht c hc) x hx
    · exact List.mem_singleton.mp hx ▸ hquote

variable {g : Gaps} (hg : g.Within P)
include hg

mutual

theorem forall_mem_write : ∀ (j : Json), Texts P j → ∀ level, ∀ x ∈ write g level j, P x
  | .null, _, _ => fun x hx => hprintable x ((by decide : ∀ x ∈ ("null" : Text), Printable x) x hx)
  | .bool true, _, _ =>
    fun x hx => hprintable x ((by decide : ∀ x ∈ ("true" : Text), Printable x) x hx)
  | .bool false, _, _ =>
    fun x hx => hprintable x ((by decide : ∀ x ∈ ("false" : Text), Printable x) x hx)
  | .int n, _, _ => fun x hx => hprintable x (printable_ofInt n x hx)
  | .double d, _, _ => fun x hx => hprintable x (printable_doubleText d x hx)
  | .text t, ht, _ => forall_mem_string hprintable ht
  | .list [], _, _ => fun x hx => hprintable x ((by decide : ∀ x ∈ [91, 93], Printable x) x hx)
  | .list (y :: ys), h, level => by
    have hopen : P 91 := hprintable 91 (by decide)
    have hvalue := forall_mem_write y h.1 (level + 1)
    have hrest := forall_mem_writeItems ys h.2 level
    intro x hx
    simp only [write, List.mem_cons, List.mem_append] at hx
    rcases hx with rfl | hx | hx | hx
    · exact hopen
    · exact hg.item _ x hx
    · exact hvalue x hx
    · exact hrest x hx
  | .dict [], _, _ =>
    fun x hx => hprintable x ((by decide : ∀ x ∈ [0x7B, 0x7D], Printable x) x hx)
  | .dict ((k, v) :: es), h, level => by
    have hopen : P 0x7B := hprintable 0x7B (by decide)
    have hpoint : P 58 := hprintable 58 (by decide)
    have hkey := forall_mem_string hprintable h.1
    have hvalue := forall_mem_write v h.2.1 (level + 1)
    have hrest := forall_mem_writeEntries es h.2.2 level
    intro x hx
    simp only [write, List.mem_cons, List.mem_append] at hx
    rcases hx with rfl | hx | hx | rfl | hx | hx | hx
    · exact hopen
    · exact hg.item _ x hx
    · exact hkey x hx
    · exact hpoint
    · exact hg.colon x hx
    · exact hvalue x hx
    · exact hrest x hx

theorem forall_mem_writeItems :
    ∀ (xs : List Json), TextsItems P xs → ∀ level, ∀ x ∈ writeItems g level xs, P x
  | [], _, level => by
    have hclose : P 93 := hprintable 93 (by decide)
    intro x hx
    rcases List.mem_append.mp hx with hx | hx
    · exact hg.item _ x hx
    · exact List.mem_singleton.mp hx ▸ hclose
  | y :: ys, h, level => by
    have hcomma : P 44 := hprintable 44 (by decide)
    have hvalue := forall_mem_write y h.1 (level + 1)
    have hrest := forall_mem_writeItems ys h.2 level
    intro x hx
    simp only [writeItems, List.mem_cons, List.mem_append] at hx
    rcases hx with rfl | hx | hx | hx
    · exact hcomma
    · exact hg.item _ x hx
    · exact hvalue x hx
    · exact hrest x hx

theorem forall_mem_writeEntries : ∀ (es : List (Text × Json)), TextsEntries P es →
    ∀ level, ∀ x ∈ writeEntries g level es, P x
  | [], _, level => by
    have hclose : P 0x7D := hprintable 0x7D (by decide)
    intro x hx
    rcases List.mem_append.mp hx with hx | hx
    · exact hg.item _ x hx
    · exact List.mem_singleton.mp hx ▸ hclose
  | (k, v) :: es, h, level => by
    have hcomma : P 44 := hprintable 44 (by decide)
    have hpoint : P 58 := hprintable 58 (by decide)
    have hkey := forall_mem_string hprintable h.1
    have hvalue := forall_mem_write v h.2.1 (level + 1)
    have hrest := forall_mem_writeEntries es h.2.2 level
    intro x hx
    simp only [writeEntries, List.mem_cons, List.mem_append] at hx
    rcases hx with rfl | hx | hx | rfl | hx | hx | hx
    · exact hcomma
    · exact hg.item _ x hx
    · exact hkey x hx
    · exact hpoint
    · exact hg.colon x hx
    · exact hvalue x hx
    · exact hrest x hx

end

end Kinds

/-- What is written in lines consists of printable characters, blanks, line feeds and the texts
of the document. -/
theorem forall_mem_pretty {P : Nat → Prop} (hprintable : ∀ c, Printable c → P c) (hline : P 10)
    {j : Json} (hj : Texts P j) : ∀ x ∈ pretty j, P x := by
  have hg : inLines.Within P := inLines_within hline (hprintable 32 (by decide))
  intro x hx
  rw [pretty, ← write_inLines] at hx
  rcases List.mem_append.mp hx with hx | hx
  · exact forall_mem_write hprintable hg j hj 0 x hx
  · exact List.mem_singleton.mp hx ▸ hline

mutual

theorem texts_of_forall {P : Nat → Prop} (hP : ∀ c, 32 ≤ c → P c) : ∀ j : Json, Texts P j
  | .null | .bool _ | .int _ | .double _ => trivial
  | .text _ => fun c _ hc => hP c hc
  | .list xs => textsItems_of_forall hP xs
  | .dict es => textsEntries_of_forall hP es

theorem textsItems_of_forall {P : Nat → Prop} (hP : ∀ c, 32 ≤ c → P c) :
    ∀ xs : List Json, TextsItems P xs
  | [] => trivial
  | x :: xs => ⟨texts_of_forall hP x, textsItems_of_forall hP xs⟩

theorem textsEntries_of_forall {P : Nat → Prop} (hP : ∀ c, 32 ≤ c → P c) :
    ∀ es : List (Text × Json), TextsEntries P es
  | [] => trivial
  | (_, v) :: es =>
    ⟨fun c _ hc => hP c hc, texts_of_forall hP v, textsEntries_of_forall hP es⟩

end

/-- No carriage return is written. -/
theorem carriageReturn_not_mem_pretty (j : Json) : 13 ∉ pretty j := by
  have hne : ∀ x ∈ pretty j, x ≠ 13 :=
    forall_mem_pretty (fun c hc => by have := hc.1; omega) (by decide)
      (texts_of_forall (fun c hc => by omega) j)
  exact fun h => hne 13 h rfl

theorem isScalar_of_printable (c : Nat) (hc : Printable c) : Text.isScalar c = true := by
  obtain ⟨hlow, hhigh⟩ := hc
  exact Text.Utf8.isScalar_of_lt (by omega)

/-- A document has octets when its texts have. -/
theorem scalar_pretty {j : Json} (hj : Texts (fun c => Text.isScalar c = true) j) :
    (pretty j).Scalar :=
  List.all_eq_true.mpr (forall_mem_pretty isScalar_of_printable rfl hj)

theorem flat_within {P : Nat → Prop} : flat.Within P :=
  ⟨fun _ _ h => (List.not_mem_nil h).elim, fun _ h => (List.not_mem_nil h).elim⟩

theorem scalar_compact {j : Json} (hj : Texts (fun c => Text.isScalar c = true) j) :
    (compact j).Scalar := by
  rw [← write_flat 0]
  exact List.all_eq_true.mpr (forall_mem_write isScalar_of_printable flat_within j hj 0)

theorem carriageReturn_not_mem_compact (j : Json) : 13 ∉ compact j := by
  have hne : ∀ x ∈ compact j, x ≠ 13 := by
    rw [← write_flat 0]
    exact forall_mem_write (fun c hc => by have := hc.1; omega) flat_within j
      (texts_of_forall (fun c hc => by omega) j) 0
  exact fun h => hne 13 h rfl

/-! ## Texts that have been written -/

/-- A code point of a text stands in the string of the text, control characters apart. -/
theorem mem_string {t : Text} {c : Nat} (hc : c ∈ t) (hprinted : 32 ≤ c) : c ∈ string t := by
  have hescape : c ∈ escape c := by
    unfold escape
    repeat' split
    all_goals first | omega | simp_all [quote]
  exact List.mem_cons_of_mem _ (List.mem_append_left _ (List.mem_flatMap.mpr ⟨c, hc, hescape⟩))

section Written

variable {P : Nat → Prop} {g : Gaps}

mutual

/-- What holds of all that is written holds of the texts of the document. -/
theorem texts_of_write : ∀ (j : Json) (level : Nat), (∀ x ∈ write g level j, P x) → Texts P j
  | .null, _, _ | .bool _, _, _ | .int _, _, _ | .double _, _, _ => trivial
  | .text _, _, h => fun c hc hprinted => h c (mem_string hc hprinted)
  | .list [], _, _ => trivial
  | .list (y :: ys), level, h => by
    simp only [write, List.forall_mem_cons, List.forall_mem_append] at h
    obtain ⟨-, -, hvalue, hrest⟩ := h
    exact ⟨texts_of_write y (level + 1) hvalue, textsItems_of_write ys level hrest⟩
  | .dict [], _, _ => trivial
  | .dict ((k, v) :: es), level, h => by
    simp only [write, List.forall_mem_cons, List.forall_mem_append] at h
    obtain ⟨-, -, hkey, -, -, hvalue, hrest⟩ := h
    exact ⟨fun c hc hprinted => hkey c (mem_string hc hprinted),
      texts_of_write v (level + 1) hvalue, textsEntries_of_write es level hrest⟩

theorem textsItems_of_write : ∀ (xs : List Json) (level : Nat),
    (∀ x ∈ writeItems g level xs, P x) → TextsItems P xs
  | [], _, _ => trivial
  | y :: ys, level, h => by
    simp only [writeItems, List.forall_mem_cons, List.forall_mem_append] at h
    obtain ⟨-, -, hvalue, hrest⟩ := h
    exact ⟨texts_of_write y (level + 1) hvalue, textsItems_of_write ys level hrest⟩

theorem textsEntries_of_write : ∀ (es : List (Text × Json)) (level : Nat),
    (∀ x ∈ writeEntries g level es, P x) → TextsEntries P es
  | [], _, _ => trivial
  | (k, v) :: es, level, h => by
    simp only [writeEntries, List.forall_mem_cons, List.forall_mem_append] at h
    obtain ⟨-, -, hkey, -, -, hvalue, hrest⟩ := h
    exact ⟨fun c hc hprinted => hkey c (mem_string hc hprinted),
      texts_of_write v (level + 1) hvalue, textsEntries_of_write es level hrest⟩

end

end Written

/-- A document that has octets on one line has octets in lines. -/
theorem scalar_pretty_of_compact {j : Json} (h : (compact j).Scalar) : (pretty j).Scalar := by
  rw [← write_flat 0] at h
  exact scalar_pretty (texts_of_write j 0 (List.all_eq_true.mp h))

end ProofLedger.Json
