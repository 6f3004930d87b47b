import ClusterRouting.Json.Reader
import ClusterRouting.Json.Writer
import ClusterRouting.Proofs.Text.Numerals

namespace ClusterRouting.Json
open Text

-- What can stand behind a value.
def Delimited (rest : List Char) : Prop := ∀ c ∈ rest.head?, c = ',' ∨ c = ']' ∨ c = '\x7d'

@[simp] theorem delimited_nil : Delimited [] := by simp [Delimited]

@[simp] theorem delimited_cons (c : Char) (rest : List Char) :
    Delimited (c :: rest) ↔ c = ',' ∨ c = ']' ∨ c = '\x7d' := by
  simp [Delimited]

section Numbers
variable {rest : List Char}

-- What can stand behind the digits of a number's whole part or fraction.
def Numberless (rest : List Char) : Prop := Stops decimalDigit? rest ∧ rest.head? ≠ some '.'

theorem Delimited.numberless (delimited : Delimited rest) : Numberless rest := by
  cases rest with
  | nil => simp [Numberless]
  | cons c later =>
    rcases (delimited_cons c later).mp delimited with rfl | rfl | rfl <;>
      exact ⟨(stops_cons ..).mpr rfl, by simp⟩

theorem readWhole_decimal (n : Nat) (stops : Stops decimalDigit? rest) :
    readWhole (decimal n ++ rest) = some (n, rest) := by
  obtain ⟨digits, spells⟩ := exists_decimal n
  unfold readWhole
  rw [spells.span_decimal stops]
  cases digits with
  | nil => exact absurd rfl spells.ne_nil
  | cons first more =>
    by_cases zero : first = 0
    · have alone : 0 :: more = [0] := zero ▸ spells.plain (by simp [zero])
      have value := spells.value
      rw [zero, alone] at value
      simp [zero, (List.cons.inj alone).2, ← value, valueFrom]
    · simp [zero, spells.value]

def writtenFraction (fraction : List (Fin 10)) : List Char :=
  if fraction = [] then [] else '.' :: fraction.map fun d : Fin 10 => Nat.digitChar d.val

def writtenPower : Option Int → List Char
  | none => []
  | some exponent => Number.writtenExponent exponent

theorem Number.written_eq (n : Number) : n.written = (if n.negative then ['-'] else []) ++
    (decimal n.whole ++ (writtenFraction n.fraction ++ writtenPower n.exponent)) := by
  obtain ⟨negative, whole, fraction, exponent⟩ := n
  cases exponent <;> simp [Number.written, writtenFraction, writtenPower]

theorem readFraction_written (fraction : List (Fin 10)) (numberless : Numberless rest) :
    readFraction (writtenFraction fraction ++ rest) = some (fraction, rest) := by
  obtain ⟨stops, pointless⟩ := numberless
  cases fraction with
  | nil =>
    cases rest with
    | nil => rfl
    | cons c later =>
      have other : c ≠ '.' := by simpa using pointless
      simp [writtenFraction, readFraction, other]
  | cons first more =>
    have below : ∀ d ∈ (first :: more).map Fin.val, d < 10 := by simp
    have span := spanDigits_map decimalDigit?_digitChar below stops
    simp only [List.map_map, List.map_cons, Function.comp_def, List.cons_append] at span
    simp [writtenFraction, readFraction, span, Function.comp_def]

theorem writtenFraction_numberless (fraction : List (Fin 10)) (stops : Stops decimalDigit? rest) :
    Stops decimalDigit? (writtenFraction fraction ++ rest) := by
  cases fraction with
  | nil => exact stops
  | cons first more => exact (stops_cons ..).mpr rfl

theorem writtenPower_numberless (power : Option Int) (delimited : Delimited rest) :
    Numberless (writtenPower power ++ rest) := by
  cases power with
  | none => exact delimited.numberless
  | some exponent => exact ⟨(stops_cons ..).mpr rfl, by simp [writtenPower, Number.writtenExponent]⟩

theorem readSign_decimal (negative : Bool) (n : Nat) (rest : List Char) :
    readSign ((if negative then ['-'] else []) ++ (decimal n ++ rest)) = (negative, decimal n ++ rest) := by
  cases negative with
  | true => rfl
  | false =>
    obtain ⟨d, digit, later, first⟩ := decimal_cons n
    have unsigned : ∀ d < 10, Nat.digitChar d ≠ '-' ∧ Nat.digitChar d ≠ '+' := by decide
    simp [first, readSign, unsigned d digit]

theorem readPower_written (power : Option Int) (delimited : Delimited rest) :
    readExponent (writtenPower power ++ rest) = some (power, rest) := by
  cases power with
  | none =>
    cases rest with
    | nil => rfl
    | cons c later =>
      rcases (delimited_cons c later).mp delimited with rfl | rfl | rfl <;> rfl
  | some exponent =>
    obtain ⟨digits, spells⟩ := exists_decimal exponent.natAbs
    have span := spells.span_decimal delimited.numberless.1
    have sign := readSign_decimal (decide (exponent < 0)) exponent.natAbs rest
    simp only [decide_eq_true_eq] at sign
    simp only [writtenPower, Number.writtenExponent, List.cons_append, List.append_assoc, readExponent, true_or, if_true,
      sign, span]
    have size : (if exponent < 0 then -(exponent.natAbs : Int) else exponent.natAbs) = exponent := by split <;> omega
    cases digits with
    | nil => exact absurd rfl spells.ne_nil
    | cons first more => simp only [spells.value, decide_eq_true_eq, size]

theorem readNumber_written (n : Number) (delimited : Delimited rest) :
    readNumber (n.written ++ rest) = some (n, rest) := by
  obtain ⟨negative, whole, fraction, exponent⟩ := n
  have power := readPower_written exponent delimited
  have numberless := writtenPower_numberless exponent delimited
  have digits := readFraction_written fraction numberless
  have front := readWhole_decimal whole (writtenFraction_numberless fraction numberless.1)
  rw [Number.written_eq]
  cases negative with
  | true => simp [readNumber, front, digits, power]
  | false =>
    obtain ⟨d, digit, later, first⟩ := decimal_cons whole
    have unsigned : ∀ d < 10, Nat.digitChar d ≠ '-' := by decide
    rw [first, List.cons_append] at front
    simp [readNumber, first, unsigned d digit, front, digits, power]

end Numbers

section Strings
variable {rest : List Char}

theorem readPieces_control (n : Nat) (control : n < 32) (rest : List Char) : readPieces ('\\' :: 'u' :: hexPadded 4 n ++ rest) =
    (readPieces rest).map fun (pieces, rest) => (.char (Char.ofNat n) :: pieces, rest) := by
  have spelled : ∀ n < 32,
      unit? (Nat.digitChar 0) (Nat.digitChar 0) (Nat.digitChar (n / 16 % 16)) (Nat.digitChar (n % 16)) = some n := by
    decide
  have zeros : n / 16 / 16 = 0 := by omega
  have plain : Piece.ofUnit n = .char (Char.ofNat n) := if_neg (by omega)
  cases later : readPieces rest <;> simp [hexPadded, readPieces, zeros, spelled n control, plain, later]

theorem readPieces_escaped (c : Char) :
    readPieces (escaped c ++ rest) = (readPieces rest).map fun (pieces, rest) => (.char c :: pieces, rest) := by
  unfold escaped
  split
  iterate 7
    · cases later : readPieces rest <;> simp [readPieces, unescape?, later]
  split
  · rename_i control
    have same := readPieces_control c.toNat control rest
    rwa [Char.ofNat_toNat] at same
  · rename_i quote backslash _ _ _ _ _ plain
    rw [List.singleton_append, readPieces]
    · have itself : ¬(c < ' ' ∨ c = '\\') := not_or.mpr ⟨plain, backslash⟩
      cases readPieces rest <;> simp [itself]
    · exact quote
    · exact fun _ _ _ _ _ escape _ => backslash escape
    · exact fun _ _ escape _ => backslash escape

theorem readPieces_text (cs : List Char) :
    readPieces (cs.flatMap escaped ++ '"' :: rest) = some (cs.map .char, rest) := by
  induction cs with
  | nil => simp [readPieces]
  | cons c later ih => simp [readPieces_escaped, ih]

theorem joinPieces_char (cs : List Char) : joinPieces (cs.map .char) = some cs := by
  induction cs with
  | nil => rfl
  | cons c later ih => simp [joinPieces, ih]

theorem writtenText_append (text : String) (rest : List Char) :
    writtenText text ++ rest = '"' :: (text.toList.flatMap escaped ++ '"' :: rest) := by
  rw [writtenText, List.cons_append, List.cons_append, List.append_assoc, List.singleton_append]

theorem readString_written (text : Option String) (rest : List Char) :
    ∃ behind, writtenString text ++ rest = '"' :: behind ∧ readString behind = some (text, rest) := by
  cases text with
  | none =>
    have half : unit? 'd' '8' '0' '0' = some 0xd800 := by decide
    refine ⟨'\\' :: 'u' :: 'd' :: '8' :: '0' :: '0' :: '"' :: rest, rfl, ?_⟩
    simp [readString, readPieces, half, Piece.ofUnit, joinPieces]
  | some text =>
    refine ⟨_, writtenText_append text rest, ?_⟩
    simp [readString, readPieces_text, joinPieces_char]

end Strings

section Openings

def Opens (text : List Char) : Prop := ∃ c later, text = c :: later ∧ isSpace c = false ∧ c ≠ ']' ∧ c ≠ '\x7d'

theorem Opens.append {text : List Char} (opens : Opens text) (rest : List Char) : Opens (text ++ rest) := by
  obtain ⟨c, later, rfl, facts⟩ := opens
  exact ⟨c, later ++ rest, rfl, facts⟩

theorem skipSpace_cons {c : Char} (visible : isSpace c = false) (rest : List Char) :
    skipSpace (c :: rest) = c :: rest := by
  simp [skipSpace, visible]

theorem Opens.skipSpace {text : List Char} (opens : Opens text) : skipSpace text = text := by
  obtain ⟨c, later, rfl, visible, _⟩ := opens
  exact skipSpace_cons visible later

theorem writtenString_opens (text : Option String) : Opens (writtenString text) := by
  cases text with
  | none => exact ⟨_, _, rfl, by decide⟩
  | some text => exact ⟨_, _, rfl, by decide⟩

theorem Number.written_cons (n : Number) :
    ∃ c later, n.written = c :: later ∧ c ∈ ['-', '0', '1', '2', '3', '4', '5', '6', '7', '8', '9'] := by
  rw [Number.written_eq]
  cases n.negative with
  | true => exact ⟨_, _, rfl, by simp⟩
  | false =>
    obtain ⟨d, digit, later, first⟩ := decimal_cons n.whole
    have listed : ∀ d < 10, Nat.digitChar d ∈ ['-', '0', '1', '2', '3', '4', '5', '6', '7', '8', '9'] := by decide
    exact ⟨_, _, by rw [first]; rfl, listed d digit⟩

theorem Value.written_opens (v : Value) : Opens v.written := by
  cases v with
  | null => exact ⟨_, _, rfl, by decide⟩
  | bool b => cases b <;> exact ⟨_, _, rfl, by decide⟩
  | number n =>
    obtain ⟨c, later, first, listed⟩ := n.written_cons
    have visible : ∀ c ∈ ['-', '0', '1', '2', '3', '4', '5', '6', '7', '8', '9'],
        isSpace c = false ∧ c ≠ ']' ∧ c ≠ '\x7d' := by simp [isSpace]
    exact ⟨c, later, first, visible c listed⟩
  | string text => exact writtenString_opens text
  | array elements => exact ⟨_, _, rfl, by decide⟩
  | object members => exact ⟨_, _, rfl, by decide⟩

theorem written_number (n : Number) : (Value.number n).written = n.written := rfl

theorem written_string (text : Option String) : (Value.string text).written = writtenString text := rfl

theorem written_array (elements : List Value) :
    (Value.array elements).written = '[' :: (Value.writtenElements elements ++ [']']) := rfl

theorem written_object (members : List (Option String × Value)) :
    (Value.object members).written = '\x7b' :: (Value.writtenMembers members ++ ['\x7d']) := rfl

theorem writtenElements_cons (first next : Value) (later : List Value) :
    Value.writtenElements (first :: next :: later) = first.written ++ ',' :: Value.writtenElements (next :: later) := rfl

theorem writtenMembers_cons (name : Option String) (value : Value) (next : Option String × Value)
    (later : List (Option String × Value)) : Value.writtenMembers ((name, value) :: next :: later) =
      writtenString name ++ ':' :: (value.written ++ ',' :: Value.writtenMembers (next :: later)) := by
  simp [Value.writtenMembers]

theorem writtenElements_opens (first : Value) (more : List Value) : Opens (Value.writtenElements (first :: more)) := by
  cases more with
  | nil => exact first.written_opens
  | cons next later => exact first.written_opens.append _

theorem writtenMembers_opens (first : Option String × Value) (more : List (Option String × Value)) :
    Opens (Value.writtenMembers (first :: more)) := by
  obtain ⟨name, value⟩ := first
  cases more with
  | nil => exact (writtenString_opens name).append _
  | cons next later =>
    rw [writtenMembers_cons]
    exact (writtenString_opens name).append _

theorem written_length_pos (v : Value) : 0 < v.written.length := by
  obtain ⟨c, later, first, _⟩ := v.written_opens
  simp [first]

end Openings

section Rows
variable {rest text : List Char}

theorem readValue_number (depth : Nat) (n : Number) (rest : List Char) : readValue (depth + 1) (n.written ++ rest) =
    (readNumber (n.written ++ rest)).map fun (n, rest) => (.number n, rest) := by
  obtain ⟨c, later, first, listed⟩ := n.written_cons
  rw [first, List.cons_append]
  simp only [List.mem_cons, List.not_mem_nil, or_false] at listed
  rcases listed with rfl | rfl | rfl | rfl | rfl | rfl | rfl | rfl | rfl | rfl | rfl <;> rfl

theorem readValue_string (depth : Nat) (rest : List Char) : readValue (depth + 1) ('"' :: rest) =
    (readString rest).map fun (text, rest) => (.string text, rest) := rfl

theorem readValue_array (depth : Nat) (opens : Opens text) : readValue (depth + 1) ('[' :: text) =
    (readElements depth text).map fun (elements, rest) => (.array elements, rest) := by
  have skipped := opens.skipSpace
  obtain ⟨c, later, rfl, _, unended, _⟩ := opens
  simp [readValue, skipped, unended]

theorem readValue_object (depth : Nat) (opens : Opens text) : readValue (depth + 1) ('\x7b' :: text) =
    (readMembers depth text).map fun (members, rest) => (.object members, rest) := by
  have skipped := opens.skipSpace
  obtain ⟨c, later, rfl, _, _, unended⟩ := opens
  simp [readValue, skipped, unended]

end Rows

-- What reading down to some depth gives back, of values and of the rows of arrays and objects.
structure Rereads (depth : Nat) : Prop where
  value : ∀ (v : Value) (rest : List Char), 2 * v.written.length ≤ depth → Delimited rest →
    readValue depth (v.written ++ rest) = some (v, rest)
  elements : ∀ (first : Value) (more : List Value) (rest : List Char),
    2 * (Value.writtenElements (first :: more)).length < depth →
    readElements depth (Value.writtenElements (first :: more) ++ ']' :: rest) = some (first :: more, rest)
  members : ∀ (first : Option String × Value) (more : List (Option String × Value)) (rest : List Char),
    2 * (Value.writtenMembers (first :: more)).length < depth →
    readMembers depth (Value.writtenMembers (first :: more) ++ '\x7d' :: rest) = some (first :: more, rest)

section Depths
variable {depth : Nat}

theorem Rereads.value_deeper (rereads : Rereads depth) (v : Value) (rest : List Char)
    (deep : 2 * v.written.length ≤ depth + 1) (delimited : Delimited rest) :
    readValue (depth + 1) (v.written ++ rest) = some (v, rest) := by
  cases v with
  | null => rfl
  | bool b => cases b <;> rfl
  | number n => simp [written_number, readValue_number, readNumber_written n delimited]
  | string text =>
    obtain ⟨behind, written, read⟩ := readString_written text rest
    simp [written_string, written, readValue_string, read]
  | array elements =>
    cases elements with
    | nil => rfl
    | cons first more =>
      simp only [written_array, List.length_cons, List.length_append] at deep
      have read := rereads.elements first more rest (by omega)
      have opens := (writtenElements_opens first more).append (']' :: rest)
      simp [written_array, readValue_array depth opens, read]
  | object members =>
    cases members with
    | nil => rfl
    | cons first more =>
      simp only [written_object, List.length_cons, List.length_append] at deep
      have read := rereads.members first more rest (by omega)
      have opens := (writtenMembers_opens first more).append ('\x7d' :: rest)
      simp [written_object, readValue_object depth opens, read]

theorem Rereads.elements_deeper (rereads : Rereads depth) (first : Value) (more : List Value) (rest : List Char)
    (deep : 2 * (Value.writtenElements (first :: more)).length < depth + 1) :
    readElements (depth + 1) (Value.writtenElements (first :: more) ++ ']' :: rest) = some (first :: more, rest) := by
  cases more with
  | nil =>
    rw [Value.writtenElements] at deep ⊢
    have read := rereads.value first (']' :: rest) (by omega) (by simp)
    simp [readElements, read, skipSpace_cons (c := ']') rfl]
  | cons next later =>
    rw [writtenElements_cons] at deep ⊢
    simp only [List.length_append, List.length_cons] at deep
    have read := rereads.value first (',' :: (Value.writtenElements (next :: later) ++ ']' :: rest)) (by omega) (by simp)
    have others := rereads.elements next later rest (by omega)
    have opens := (writtenElements_opens next later).append (']' :: rest)
    simp [readElements, read, skipSpace_cons (c := ',') rfl, opens.skipSpace, others]

theorem Rereads.members_deeper (rereads : Rereads depth) (first : Option String × Value)
    (more : List (Option String × Value)) (rest : List Char)
    (deep : 2 * (Value.writtenMembers (first :: more)).length < depth + 1) :
    readMembers (depth + 1) (Value.writtenMembers (first :: more) ++ '\x7d' :: rest) = some (first :: more, rest) := by
  obtain ⟨name, value⟩ := first
  have opening := value.written_opens
  cases more with
  | nil =>
    rw [Value.writtenMembers] at deep ⊢
    simp only [List.length_append, List.length_cons] at deep
    obtain ⟨behind, written, named⟩ := readString_written name (':' :: (value.written ++ '\x7d' :: rest))
    have read := rereads.value value ('\x7d' :: rest) (by omega) (by simp)
    simp [readMembers, written, named, skipSpace_cons (c := ':') rfl, (opening.append _).skipSpace, read,
      skipSpace_cons (c := '\x7d') rfl]
  | cons next later =>
    rw [writtenMembers_cons] at deep ⊢
    simp only [List.length_append, List.length_cons] at deep
    obtain ⟨behind, written, named⟩ := readString_written name
      (':' :: (value.written ++ ',' :: (Value.writtenMembers (next :: later) ++ '\x7d' :: rest)))
    have read := rereads.value value (',' :: (Value.writtenMembers (next :: later) ++ '\x7d' :: rest)) (by omega)
      (by simp)
    have others := rereads.members next later rest (by omega)
    have opens := (writtenMembers_opens next later).append ('\x7d' :: rest)
    simp [readMembers, written, named, skipSpace_cons (c := ':') rfl, (opening.append _).skipSpace, read,
      skipSpace_cons (c := ',') rfl, opens.skipSpace, others]

-- The reader goes one level down with each call, and so does the proof.
theorem rereads (depth : Nat) : Rereads depth := by
  induction depth with
  | zero =>
    have some_depth := written_length_pos
    exact ⟨fun v _ deep => absurd (some_depth v) (by omega), fun _ _ _ deep => absurd deep (Nat.not_lt_zero _),
      fun _ _ _ deep => absurd deep (Nat.not_lt_zero _)⟩
  | succ depth ih => exact ⟨ih.value_deeper, ih.elements_deeper, ih.members_deeper⟩

end Depths

theorem read?_text (v : Value) : read? v.text.toList = some v := by
  have read := (rereads (2 * v.written.length + 2)).value v [] (by omega) (by simp)
  rw [List.append_nil] at read
  have blank : skipSpace [] = [] := rfl
  simp [read?, Value.text, v.written_opens.skipSpace, read, blank]

end ClusterRouting.Json
