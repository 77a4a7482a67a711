import Mathlib.Data.List.TakeWhile
import LinearProgram.Number.Notation
import LinearProgram.Proofs.Text.Run

/-!
# Literals

The unsigned literals of the notation, said without a reader: digits of any script, at least one,
then possibly a point and more digits. `IsLiteral` is the class of these texts, and a `Literal` has
the parts of one: what they say is the number nearest to the decimal of all digits, with as many
places as there are digits behind the point.

The reader accepts these texts and no others (`readLiteral?_eq_none_iff`), and gives each its number
(`readLiteral?_eq_some_iff`).
-/

namespace LinearProgram

/-- An unsigned literal: digits, or digits, a point and possibly more digits. -/
inductive IsLiteral : Text → Prop
  | whole {digits : Text} : digits ≠ [] → (∀ c ∈ digits, isDigit c = true) → IsLiteral digits
  | point {digits places : Text} : digits ≠ [] → (∀ c ∈ digits, isDigit c = true) →
      (∀ c ∈ places, isDigit c = true) → IsLiteral (digits ++ '.' :: places)

theorem isDigit_point : isDigit '.' = false := by decide

theorem isDigit_minus : isDigit '-' = false := by decide

/-! ## Literals in parts -/

/-- A literal in its parts: digits, at least one, and possibly a point with more digits. -/
structure Literal where
  whole : Text
  places : Option Text
  whole_ne_nil : whole ≠ []
  whole_digits : ∀ c ∈ whole, isDigit c = true
  places_digits : ∀ digits ∈ places, ∀ c ∈ digits, isDigit c = true

namespace Literal

/-- A point with the digits behind it, where there is one. -/
def pointText : Option Text → Text
  | none => []
  | some digits => '.' :: digits

/-- The literal as it is written. -/
def text (l : Literal) : Text := l.whole ++ pointText l.places

/-- The decimal that the digits denote. -/
def decimal (l : Literal) : Decimal :=
  ⟨digitsValue (l.whole ++ l.places.getD []), -((l.places.getD []).length : Int)⟩

/-- The number that a literal means, the one nearest to its decimal. -/
def value (l : Literal) : Number := l.decimal.toNumber false

theorem stops_pointText (places : Option Text) : Text.Stops isDigit (pointText places) := by
  cases places with
  | none => exact Text.stops_nil isDigit
  | some digits => exact Text.stops_cons isDigit_point digits

theorem pointText_injective : Function.Injective pointText := by
  intro places places' h
  cases places <;> cases places' <;> simp_all [pointText]

/-- The parts of a literal can be told from its text. -/
theorem text_injective : Function.Injective text := by
  intro l l' h
  obtain ⟨hwhole, hpoint⟩ := Text.append_inj_of_stops l.whole_digits l'.whole_digits
    (stops_pointText l.places) (stops_pointText l'.places) h
  have hplaces := pointText_injective hpoint
  cases l
  cases l'
  simp_all

/-- A literal consists of digits, and possibly a point. -/
theorem isDigit_or_eq_of_mem_text {l : Literal} {c : Char} (hc : c ∈ l.text) :
    isDigit c = true ∨ c = '.' := by
  rcases List.mem_append.1 hc with hc | hc
  · exact Or.inl (l.whole_digits c hc)
  · cases hplaces : l.places with
    | none => simp [hplaces, pointText] at hc
    | some digits =>
      rw [hplaces, pointText, List.mem_cons] at hc
      exact hc.symm.imp_left (l.places_digits digits hplaces c)

theorem not_mem_text {c : Char} (hdigit : isDigit c = false) (hpoint : c ≠ '.') (l : Literal) :
    c ∉ l.text := by
  intro hc
  rcases isDigit_or_eq_of_mem_text hc with hc | hc
  · exact absurd hc (by simp [hdigit])
  · exact hpoint hc

theorem text_ne_nil (l : Literal) : l.text ≠ [] := by
  simp [text, l.whole_ne_nil]

theorem isBlank_of_mem_text {l : Literal} {c : Char} (hc : c ∈ l.text) : isBlank c = false := by
  rcases isDigit_or_eq_of_mem_text hc with hc | rfl
  · exact isBlank_of_isDigit hc
  · exact isBlank_of_mem_punctuation _ (by decide)

theorem trimmed_text (l : Literal) : Text.Trimmed l.text :=
  Text.trimmed_of_no_blank fun _ => isBlank_of_mem_text

/-- The characters that literals consist of. -/
def isPart (c : Char) : Bool := isDigit c || c = '.'

theorem isPart_of_isBlank {c : Char} (h : isBlank c = true) : isPart c = false := by
  have hdigit : isDigit c = false := by
    by_contra hdigit
    rw [isBlank_of_isDigit (by simpa using hdigit)] at h
    exact absurd h (by decide)
  have hpoint : c ≠ '.' := by
    rintro rfl
    exact absurd h (by decide)
  simp [isPart, hdigit, hpoint]

/-- A literal ends where a character stands that no literal contains. -/
theorem append_inj {l l' : Literal} {x y : Text} (hx : Text.Stops isPart x)
    (hy : Text.Stops isPart y) (h : l.text ++ x = l'.text ++ y) : l = l' ∧ x = y := by
  have hpart (l : Literal) : ∀ c ∈ l.text, isPart c = true := fun c hc => by
    simpa [isPart] using isDigit_or_eq_of_mem_text hc
  obtain ⟨htext, hrest⟩ := Text.append_inj_of_stops (hpart l) (hpart l') hx hy h
  exact ⟨text_injective htext, hrest⟩

end Literal

theorem isLiteral_iff_exists {s : Text} : IsLiteral s ↔ ∃ l : Literal, l.text = s := by
  constructor
  · intro h
    cases h with
    | whole hne hdigits => exact ⟨⟨s, none, hne, hdigits, by simp⟩, List.append_nil s⟩
    | @point digits places hne hdigits hplaces =>
      exact ⟨⟨digits, some places, hne, hdigits, by simpa using hplaces⟩, rfl⟩
  · rintro ⟨⟨whole, places, hne, hdigits, hplaces⟩, rfl⟩
    cases places with
    | none =>
      rw [Literal.text, Literal.pointText, List.append_nil]
      exact .whole hne hdigits
    | some places => exact .point hne hdigits (hplaces places rfl)

/-! ## Reading -/

theorem literalDecimal?_text (l : Literal) : literalDecimal? l.text = some l.decimal := by
  have htake : l.text.takeWhile isDigit = l.whole :=
    Text.takeWhile_append_of_stops l.whole_digits (Literal.stops_pointText l.places)
  have hdrop : l.text.dropWhile isDigit = Literal.pointText l.places :=
    Text.dropWhile_append_of_stops l.whole_digits (Literal.stops_pointText l.places)
  cases hplaces : l.places with
  | none =>
    simp [literalDecimal?, htake, hdrop, hplaces, Literal.pointText, Literal.decimal,
      l.whole_ne_nil]
  | some digits =>
    have hall : digits.all isDigit = true := List.all_eq_true.2 (l.places_digits digits hplaces)
    simp [literalDecimal?, htake, hdrop, hplaces, Literal.pointText, Literal.decimal,
      l.whole_ne_nil, hall]

theorem exists_literal_of_literalDecimal? {s : Text} {d : Decimal}
    (h : literalDecimal? s = some d) : ∃ l : Literal, l.text = s ∧ l.decimal = d := by
  have hdigits : ∀ c ∈ s.takeWhile isDigit, isDigit c = true := fun c hc =>
    List.mem_takeWhile_imp hc
  have hs : s.takeWhile isDigit ++ s.dropWhile isDigit = s := List.takeWhile_append_dropWhile
  simp only [literalDecimal?] at h
  split at h
  · simp at h
  · rename_i hne
    have hne : s.takeWhile isDigit ≠ [] := by simpa using hne
    split at h
    · rename_i hdrop
      rw [hdrop] at hs
      exact ⟨⟨_, none, hne, hdigits, by simp⟩, hs, by simpa [Literal.decimal] using h⟩
    · rename_i c places hdrop
      split at h
      · rename_i hpoint
        simp only [Bool.and_eq_true, decide_eq_true_eq, List.all_eq_true] at hpoint
        obtain ⟨rfl, hplaces⟩ := hpoint
        rw [hdrop] at hs
        exact ⟨⟨_, some places, hne, hdigits, by simpa using hplaces⟩, hs,
          by simpa [Literal.decimal] using h⟩
      · simp at h

/-- **What the reader accepts**, and as which number. -/
theorem readLiteral?_eq_some_iff {s : Text} {value : Number} :
    readLiteral? s = some value ↔ ∃ l : Literal, l.text = s ∧ l.value = value := by
  rw [readLiteral?, Option.map_eq_some_iff]
  constructor
  · rintro ⟨d, hd, rfl⟩
    obtain ⟨l, hl, rfl⟩ := exists_literal_of_literalDecimal? hd
    exact ⟨l, hl, rfl⟩
  · rintro ⟨l, rfl, rfl⟩
    exact ⟨l.decimal, literalDecimal?_text l, rfl⟩

/-- **The reader refuses what is no literal, and nothing else.** -/
theorem readLiteral?_eq_none_iff {s : Text} : readLiteral? s = none ↔ ¬IsLiteral s := by
  rw [isLiteral_iff_exists, Option.eq_none_iff_forall_ne_some]
  simp [readLiteral?_eq_some_iff]

/-- A literal begins with a digit. -/
theorem IsLiteral.exists_digit {s : Text} (h : IsLiteral s) :
    ∃ c rest, s = c :: rest ∧ isDigit c = true := by
  cases h with
  | whole hne hdigits =>
    obtain ⟨c, rest, rfl⟩ := List.exists_cons_of_ne_nil hne
    exact ⟨c, rest, rfl, hdigits c List.mem_cons_self⟩
  | point hne hdigits _ =>
    obtain ⟨c, rest, rfl⟩ := List.exists_cons_of_ne_nil hne
    exact ⟨c, _, rfl, hdigits c List.mem_cons_self⟩

end LinearProgram
