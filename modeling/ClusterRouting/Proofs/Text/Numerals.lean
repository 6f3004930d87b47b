import ClusterRouting.Text.Digits
import Mathlib.Data.List.Basic

namespace ClusterRouting.Text

-- The digits that a number is written with, and no others.
structure Spells (base n : Nat) (digits : List Nat) : Prop where
  written : Nat.toDigits base n = digits.map Nat.digitChar
  below : ∀ d ∈ digits, d < base
  value : valueFrom base 0 digits = n
  -- zero leads in its own numeral only
  plain : digits.head? = some 0 → digits = [0]

def Stops (digit? : Char → Option Nat) (rest : List Char) : Prop := ∀ c ∈ rest.head?, digit? c = none

@[simp] theorem stops_nil (digit? : Char → Option Nat) : Stops digit? [] := by simp [Stops]

@[simp] theorem stops_cons (digit? : Char → Option Nat) (c : Char) (rest : List Char) :
    Stops digit? (c :: rest) ↔ digit? c = none := by
  simp [Stops]

section Digits
variable {base n : Nat} {digits : List Nat} {digit? : Char → Option Nat}

theorem Spells.ne_nil (spells : Spells base n digits) : digits ≠ [] := by
  rintro rfl
  exact Nat.toDigits_ne_nil spells.written

theorem Spells.length_eq (spells : Spells base n digits) : digits.length = (Nat.toDigits base n).length := by
  rw [spells.written, List.length_map]

theorem valueFrom_append (base start : Nat) (digits : List Nat) (d : Nat) :
    valueFrom base start (digits ++ [d]) = valueFrom base start digits * base + d := by
  simp [valueFrom]

theorem exists_spells (large : 1 < base) (n : Nat) : ∃ digits, Spells base n digits := by
  induction n using Nat.strongRecOn with
  | ind n ih =>
    by_cases small : n < base
    · refine ⟨[n], Nat.toDigits_of_lt_base small, by simpa using small, by simp [valueFrom], ?_⟩
      simp
    · have shorter : n / base < n := Nat.div_lt_self (by omega) large
      obtain ⟨digits, spells⟩ := ih _ shorter
      refine ⟨digits ++ [n % base], ?_, ?_, ?_, ?_⟩
      · rw [Nat.toDigits_of_base_le large (Nat.le_of_not_lt small), spells.written, List.map_append]
        rfl
      · intro d member
        rcases List.mem_append.mp member with before | last
        · exact spells.below d before
        · rw [List.mem_singleton.mp last]
          exact Nat.mod_lt _ (by omega)
      · rw [valueFrom_append, spells.value]
        exact Nat.div_add_mod' n base
      · intro zero
        rw [List.head?_append_of_ne_nil _ spells.ne_nil] at zero
        have nothing := spells.value
        rw [spells.plain zero] at nothing
        have above : 0 < n / base := Nat.div_pos (Nat.le_of_not_lt small) (by omega)
        simp only [valueFrom, List.foldl_cons, List.foldl_nil] at nothing
        omega

theorem spanDigits_of_stops {rest : List Char} (stops : Stops digit? rest) : spanDigits digit? rest = ([], rest) := by
  cases rest with
  | nil => rfl
  | cons c later =>
    have none : digit? c = none := (stops_cons digit? c later).mp stops
    simp [spanDigits, none]

theorem spanDigits_map (reads : ∀ d < base, digit? (Nat.digitChar d) = some d) (below : ∀ d ∈ digits, d < base)
    {rest : List Char} (stops : Stops digit? rest) :
    spanDigits digit? (digits.map Nat.digitChar ++ rest) = (digits, rest) := by
  induction digits with
  | nil => exact spanDigits_of_stops stops
  | cons d later ih =>
    have first := reads d (below d List.mem_cons_self)
    have others := ih fun other member => below other (List.mem_cons_of_mem _ member)
    simp [spanDigits, first, others]

theorem Spells.span (spells : Spells base n digits) (reads : ∀ d < base, digit? (Nat.digitChar d) = some d)
    {rest : List Char} (stops : Stops digit? rest) :
    spanDigits digit? (Nat.toDigits base n ++ rest) = (digits, rest) := by
  rw [spells.written]
  exact spanDigits_map reads spells.below stops

end Digits

theorem decimalDigit?_digitChar : ∀ d < 10, decimalDigit? (Nat.digitChar d) = some d := by decide

theorem hexDigit?_digitChar : ∀ d < 16, hexDigit? (Nat.digitChar d) = some d := by decide

theorem exists_decimal (n : Nat) : ∃ digits, Spells 10 n digits := exists_spells (by decide) n

theorem exists_hex (n : Nat) : ∃ digits, Spells 16 n digits := exists_spells (by decide) n

theorem decimal_cons (n : Nat) : ∃ d < 10, ∃ later, decimal n = Nat.digitChar d :: later := by
  obtain ⟨digits, spells⟩ := exists_decimal n
  cases digits with
  | nil => exact absurd rfl spells.ne_nil
  | cons d later => exact ⟨d, spells.below d List.mem_cons_self, _, spells.written⟩

section Written
variable {n : Nat} {digits : List Nat} {rest : List Char}

theorem Spells.span_decimal (spells : Spells 10 n digits) (stops : Stops decimalDigit? rest) :
    spanDigits decimalDigit? (decimal n ++ rest) = (digits, rest) :=
  spells.span decimalDigit?_digitChar stops

theorem Spells.span_hex (spells : Spells 16 n digits) (stops : Stops hexDigit? rest) :
    spanDigits hexDigit? (hex n ++ rest) = (digits, rest) :=
  spells.span hexDigit?_digitChar stops

end Written

end ClusterRouting.Text
