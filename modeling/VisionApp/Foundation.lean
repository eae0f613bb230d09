import Mathlib.Data.List.DropRight
import Mathlib.Data.List.Infix
import Mathlib.Algebra.Order.Group.Int

/-!
# The Swift and Foundation operations the app uses

Text is a sequence of `Char`s, each standing for one Swift `Character`. A
`Double` is only stored and copied by the app, so it is kept as its bit
pattern. Run-time errors that end the app are `Trap`s.
-/

namespace VisionApp

inductive Trap where
  | indexOutOfRange
  | unexpectedNil
  | unrecognizedSelector
deriving DecidableEq, Repr

section Traps

universe u

variable {First Second : Type u}

@[simp]
theorem bind_eq_ok_iff {computation : Except Trap First} {next : First → Except Trap Second}
    {value : Second} :
    (computation >>= next) = .ok value ↔
      ∃ middle, computation = .ok middle ∧ next middle = .ok value := by
  cases computation <;> simp [bind, Except.bind]

@[simp]
theorem pure_eq_ok_iff {left right : First} :
    (pure left : Except Trap First) = .ok right ↔ left = right := by
  simp [pure, Except.pure]

theorem mapM_ne_error {body : First → Except Trap Second} {trap : Trap}
    (never : ∀ element, body element ≠ .error trap) (elements : List First) :
    elements.mapM body ≠ .error trap := by
  induction elements with
  | nil => simp [pure, Except.pure]
  | cons element elements ih =>
      rw [List.mapM_cons]
      have first := never element
      cases converted : body element with
      | error other =>
          rw [converted] at first
          simpa [bind, Except.bind] using first
      | ok value =>
          cases rest : elements.mapM body with
          | error other =>
              rw [rest] at ih
              simpa [bind, Except.bind] using ih
          | ok values => simp [bind, Except.bind, pure, Except.pure]

end Traps

/-- An IEEE 754 double; `Double()` is zero. -/
structure Double where
  bits : UInt64 := 0
deriving DecidableEq, Repr

structure CLLocationCoordinate2D where
  latitude : Double := {}
  longitude : Double := {}
deriving DecidableEq, Repr

structure CLLocation where
  coordinate : CLLocationCoordinate2D := {}
deriving DecidableEq, Repr

section Arrays

variable {Element : Type*}

def InRange (index : ℤ) (array : List Element) : Prop :=
  0 ≤ index ∧ index < array.length

instance (index : ℤ) (array : List Element) : Decidable (InRange index array) :=
  inferInstanceAs (Decidable (_ ∧ _))

/-- `array[index]`, which traps outside the bounds. -/
def subscript (array : List Element) (index : ℤ) : Except Trap Element :=
  if index < 0 then .error .indexOutOfRange
  else
    match array[index.toNat]? with
    | some element => .ok element
    | none => .error .indexOutOfRange

theorem subscript_eq_ok_iff {array : List Element} {index : ℤ} {element : Element} :
    subscript array index = .ok element ↔ 0 ≤ index ∧ array[index.toNat]? = some element := by
  simp only [subscript]
  split
  · constructor
    · intro impossible
      simp at impossible
    · rintro ⟨nonneg, _⟩
      omega
  · cases found : array[index.toNat]? <;> simp
    omega

theorem subscript_eq_error_iff {array : List Element} {index : ℤ} :
    subscript array index = .error .indexOutOfRange ↔ ¬InRange index array := by
  simp only [subscript, InRange]
  split
  · constructor
    · intro _ inRange
      omega
    · intro _
      rfl
  · cases found : array[index.toNat]? with
    | none =>
        have := List.getElem?_eq_none_iff.mp found
        simp
        omega
    | some element =>
        have := (List.getElem?_eq_some_iff.mp found).1
        simp
        omega

theorem subscript_of_inRange {array : List Element} {index : ℤ} (inRange : InRange index array) :
    ∃ element, subscript array index = .ok element := by
  rcases inRange with ⟨nonneg, bound⟩
  have natBound : index.toNat < array.length := by omega
  exact ⟨array[index.toNat], subscript_eq_ok_iff.mpr ⟨nonneg, List.getElem?_eq_getElem natBound⟩⟩

end Arrays

section Text

/-- `CharacterSet.whitespacesAndNewlines`. -/
def isWhitespaceOrNewline (character : Char) : Bool :=
  let code := character.toNat
  (0x09 ≤ code && code ≤ 0x0D) || code == 0x20 || code == 0x85 || code == 0xA0 ||
    code == 0x1680 || (0x2000 ≤ code && code ≤ 0x200A) || code == 0x2028 || code == 0x2029 ||
    code == 0x202F || code == 0x205F || code == 0x3000

/-- `text.trimmingCharacters(in: .whitespacesAndNewlines)`. -/
def trimmingCharacters (text : String) : String :=
  String.ofList
    ((text.toList.dropWhile isWhitespaceOrNewline).rdropWhile isWhitespaceOrNewline)

/-- The text has no leading or trailing white space. -/
def IsTrimmed (text : String) : Prop :=
  text.toList.head?.any isWhitespaceOrNewline = false ∧
    text.toList.getLast?.any isWhitespaceOrNewline = false

instance (text : String) : Decidable (IsTrimmed text) :=
  inferInstanceAs (Decidable (_ ∧ _))

theorem trimmingCharacters_of_isTrimmed {text : String} (trimmed : IsTrimmed text) :
    trimmingCharacters text = text := by
  rcases trimmed with ⟨noLeading, noTrailing⟩
  have fromLeft : text.toList.dropWhile isWhitespaceOrNewline = text.toList := by
    cases characters : text.toList with
    | nil => rfl
    | cons first rest =>
        rw [characters, List.head?_cons, Option.any_some] at noLeading
        rw [List.dropWhile_cons_of_neg]
        simp [noLeading]
  have fromRight : text.toList.rdropWhile isWhitespaceOrNewline = text.toList := by
    rw [List.rdropWhile_eq_self_iff]
    intro notEmpty
    rw [List.getLast?_eq_some_getLast notEmpty, Option.any_some] at noTrailing
    simp [noTrailing]
  rw [trimmingCharacters, fromLeft, fromRight, String.ofList_toList]

/-- `text[..<index]` for the index `count` characters after the start. -/
def substringBefore (text : String) (count : ℕ) : String :=
  String.ofList (text.toList.take count)

/-- `text[index...]` for the index `count` characters after the start. -/
def substringFrom (text : String) (count : ℕ) : String :=
  String.ofList (text.toList.drop count)

/-- `text.contains(part)`, which the app only asks for a non-empty part. -/
def containsText (text part : String) : Bool :=
  decide (part.toList <:+: text.toList)

end Text

end VisionApp
