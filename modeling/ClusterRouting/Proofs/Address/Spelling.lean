import ClusterRouting.Address.Printer
import ClusterRouting.Address.Reader
import ClusterRouting.Proofs.Text.Numerals

namespace ClusterRouting.Address
open Text

section Numbers
variable {rest : List Char}

theorem exactly_cons (c : Char) (rest : List Char) : exactly c (c :: rest) = some ((), rest) := by
  simp [exactly]

theorem numberBelow_decimal {bound n : Nat} (small : n < bound) (stops : Stops decimalDigit? rest) :
    numberBelow bound (decimal n ++ rest) = some (n, rest) := by
  obtain ⟨digits, spells⟩ := exists_decimal n
  have some := spells.ne_nil
  unfold numberBelow
  rw [spells.span_decimal stops]
  cases digits with
  | nil => exact absurd rfl some
  | cons first more => simp [spells.value, small]

theorem octet_decimal (o : UInt8) (stops : Stops decimalDigit? rest) :
    octet (decimal o.toNat ++ rest) = some (o, rest) := by
  obtain ⟨digits, spells⟩ := exists_decimal o.toNat
  have small : o.toNat < 256 := o.toNat_lt
  have short : digits.length ≤ 3 := by
    rw [spells.length_eq, Nat.length_toDigits_le_iff (by decide) (by decide)]
    omega
  have some := spells.ne_nil
  unfold octet
  rw [spells.span_decimal stops]
  cases digits with
  | nil => exact absurd rfl some
  | cons first more =>
    have plain : ¬(first = 0 ∧ more ≠ []) := by
      rintro ⟨rfl, others⟩
      exact others (List.cons.inj (spells.plain rfl)).2
    have fits : more.length < 3 := by simpa [Nat.succ_le_iff] using short
    simp only [spells.value, fits, plain, small, not_false_eq_true, and_self, if_true, UInt8.ofNat_toNat]

theorem group_hex (g : UInt16) (stops : Stops hexDigit? rest) : group (hex g.toNat ++ rest) = some (g, rest) := by
  obtain ⟨digits, spells⟩ := exists_hex g.toNat
  have small : g.toNat < 65536 := g.toNat_lt
  have short : digits.length ≤ 4 := by
    rw [spells.length_eq, Nat.length_toDigits_le_iff (by decide) (by decide)]
    omega
  have some := spells.ne_nil
  unfold group
  rw [spells.span_hex stops]
  cases digits with
  | nil => exact absurd rfl some
  | cons first more => simp only [spells.value, short, if_true, UInt16.ofNat_toNat]

theorem octets_written (o : Octets) (stops : Stops decimalDigit? rest) :
    octets (o.written ++ rest) = some (o, rest) := by
  have dot : ∀ later, Stops decimalDigit? ('.' :: later) := fun later => (stops_cons ..).mpr rfl
  simp only [octets, Octets.written, List.append_assoc, List.cons_append, octet_decimal _ (dot _), exactly_cons,
    octet_decimal _ stops, Option.bind_eq_bind, Option.bind_some]
  rfl

theorem port_decimal (p : UInt16) (stops : Stops decimalDigit? rest) :
    port (':' :: (decimal p.toNat ++ rest)) = some (p, rest) := by
  have small : p.toNat < UInt16.size := p.toNat_lt
  simp [port, exactly_cons, numberBelow_decimal small stops]

theorem scope_decimal (s : UInt32) (stops : Stops decimalDigit? rest) :
    scope ('%' :: (decimal s.toNat ++ rest)) = some (s.toNat, rest) := by
  have small : s.toNat < UInt32.size := s.toNat_lt
  simp [scope, exactly_cons, numberBelow_decimal small stops]

end Numbers

section Groups
variable {rest : List Char}

-- What can stand behind a group: a colon, or the end of the host.
def Bounded (rest : List Char) : Prop := ∃ c later, rest = c :: later ∧ (c = ':' ∨ c = ']' ∨ c = '%')

-- What the groups of one side end at: the contraction, or the end of the host.
def Closes (rest : List Char) : Prop :=
  (∃ later, rest = ':' :: ':' :: later) ∨ ∃ c later, rest = c :: later ∧ (c = ']' ∨ c = '%')

theorem bounded_colon (later : List Char) : Bounded (':' :: later) := ⟨_, _, rfl, .inl rfl⟩

theorem closes_contraction (later : List Char) : Closes (':' :: ':' :: later) := .inl ⟨later, rfl⟩

theorem closes_bracket (later : List Char) : Closes (']' :: later) := .inr ⟨_, _, rfl, .inl rfl⟩

theorem closes_percent (later : List Char) : Closes ('%' :: later) := .inr ⟨_, _, rfl, .inr rfl⟩

theorem Closes.bounded (closes : Closes rest) : Bounded rest := by
  rcases closes with ⟨later, rfl⟩ | ⟨c, later, rfl, ends⟩
  · exact bounded_colon _
  · exact ⟨_, _, rfl, .inr ends⟩

theorem Bounded.stops_decimal (bounded : Bounded rest) : Stops decimalDigit? rest := by
  obtain ⟨c, later, rfl, rfl | rfl | rfl⟩ := bounded <;> exact (stops_cons ..).mpr rfl

theorem Bounded.stops_hex (bounded : Bounded rest) : Stops hexDigit? rest := by
  obtain ⟨c, later, rfl, rfl | rfl | rfl⟩ := bounded <;> exact (stops_cons ..).mpr rfl

theorem Bounded.pointless (bounded : Bounded rest) : rest.head? ≠ some '.' := by
  obtain ⟨c, later, rfl, rfl | rfl | rfl⟩ := bounded <;> simp

theorem octets_none (stops : Stops decimalDigit? rest) : octets rest = none := by
  simp [octets, octet, spanDigits_of_stops stops]

theorem group_none (stops : Stops hexDigit? rest) : group rest = none := by
  simp [group, spanDigits_of_stops stops]

theorem octet_left {text left : List Char} {o : UInt8} (read : octet text = some (o, left)) :
    left = (spanDigits decimalDigit? text).2 := by
  unfold octet at read
  split at read
  · cases read
  · rename_i spanned
    simp only [Option.ite_none_right_eq_some, Option.some.injEq, Prod.mk.injEq] at read
    rw [spanned, read.2.2]

theorem octets_of_pointless {text : List Char} (pointless : (spanDigits decimalDigit? text).2.head? ≠ some '.') :
    octets text = none := by
  have refused : exactly '.' (spanDigits decimalDigit? text).2 = none := by
    cases after : (spanDigits decimalDigit? text).2 with
    | nil => rfl
    | cons c later =>
      have other : c ≠ '.' := by simpa [after] using pointless
      simp [exactly, other]
  cases read : octet text with
  | none => simp [octets, read]
  | some result => simp [octets, read, octet_left read, refused]

theorem span_pointless {front : List Char} (front_pointless : '.' ∉ front) (stops : Stops decimalDigit? rest)
    (pointless : rest.head? ≠ some '.') : (spanDigits decimalDigit? (front ++ rest)).2.head? ≠ some '.' := by
  induction front with
  | nil => simpa [spanDigits_of_stops stops] using pointless
  | cons c later ih =>
    simp only [List.mem_cons, not_or] at front_pointless
    obtain ⟨other, later_pointless⟩ := front_pointless
    cases digit : decimalDigit? c with
    | none => simpa [spanDigits, digit] using Ne.symm other
    | some d => simpa [spanDigits, digit] using ih later_pointless

theorem octets_hex (n : Nat) (bounded : Bounded rest) : octets (hex n ++ rest) = none := by
  refine octets_of_pointless (span_pointless ?_ bounded.stops_decimal bounded.pointless)
  obtain ⟨digits, spells⟩ := exists_hex n
  have others : ∀ d < 16, Nat.digitChar d ≠ '.' := by decide
  rw [hex, spells.written]
  intro member
  obtain ⟨d, below, point⟩ := List.mem_map.mp member
  exact others d (spells.below d below) point

def behindColons (gs : List UInt16) : List Char := gs.flatMap fun g => ':' :: hex g.toNat

theorem joined_cons (g : UInt16) (gs : List UInt16) : Groups.joined (g :: gs) = hex g.toNat ++ behindColons gs := by
  induction gs generalizing g with
  | nil => simp [Groups.joined, behindColons]
  | cons next later ih => simp [Groups.joined, behindColons, ih]

theorem Bounded.behind_colons (gs : List UInt16) (bounded : Bounded rest) : Bounded (behindColons gs ++ rest) := by
  cases gs with
  | nil => exact bounded
  | cons g later => exact bounded_colon _

theorem side_group (room : Nat) (first : Bool) (g : UInt16) (bounded : Bounded rest) :
    side (room + 1) first ((if first then [] else [':']) ++ (hex g.toNat ++ rest)) =
      (⟨g :: (side room false rest).1.groups, (side room false rest).1.octetsLast⟩, (side room false rest).2) := by
  have no_octets := octets_hex g.toNat bounded
  have this_group := group_hex g bounded.stops_hex
  cases first <;> simp [side, afterColon, exactly_cons, no_octets, this_group]

theorem afterColon_closes {item : Reader α} (refuses : ∀ text, Bounded text → item text = none) (first : Bool)
    (closes : Closes rest) : afterColon first item rest = none := by
  cases first with
  | true => exact refuses rest closes.bounded
  | false =>
    rcases closes with ⟨later, rfl⟩ | ⟨c, later, rfl, rfl | rfl⟩
    · simpa [afterColon, exactly_cons] using refuses (':' :: later) (bounded_colon later)
    · rfl
    · rfl

theorem side_closes (room : Nat) (first : Bool) (closes : Closes rest) : side room first rest = (⟨[], false⟩, rest) := by
  cases room with
  | zero => rfl
  | succ room =>
    have no_octets := afterColon_closes (fun _ bounded => octets_none bounded.stops_decimal) first closes
    have no_group := afterColon_closes (fun _ bounded => group_none bounded.stops_hex) first closes
    simp [side, no_octets, no_group]

theorem side_behind_colons {gs : List UInt16} {room : Nat} (fits : gs.length ≤ room) (closes : Closes rest) :
    side room false (behindColons gs ++ rest) = (⟨gs, false⟩, rest) := by
  induction gs generalizing room with
  | nil => exact side_closes room false closes
  | cons g later ih =>
    obtain ⟨room, rfl⟩ : ∃ less, room = less + 1 := ⟨room - 1, by simp at fits; omega⟩
    have others := ih (show later.length ≤ room by simpa using fits)
    have one_more := side_group room false g (closes.bounded.behind_colons later)
    rw [others] at one_more
    simpa [behindColons] using one_more

theorem side_joined {gs : List UInt16} {room : Nat} (fits : gs.length ≤ room) (closes : Closes rest) :
    side room true (Groups.joined gs ++ rest) = (⟨gs, false⟩, rest) := by
  cases gs with
  | nil => exact side_closes room true closes
  | cons g later =>
    obtain ⟨room, rfl⟩ : ∃ less, room = less + 1 := ⟨room - 1, by simp at fits; omega⟩
    have others := side_behind_colons (show later.length ≤ room by simpa using fits) closes
    have one_more := side_group room true g (closes.bounded.behind_colons later)
    rw [others] at one_more
    simpa [joined_cons] using one_more

end Groups

section Hosts
variable {rest : List Char}

theorem eight?_toList (gs : ClusterRouting.Groups) : eight? gs.toList = some gs := by
  simp [eight?, ← Vector.toArray_toList]

-- The zeros that a contraction takes away are the ones that reading puts back.
theorem zeros_put_back (gs : List UInt16) (start : Nat) :
    gs.take start ++ List.replicate (Groups.zerosFrom gs start) 0 ++ gs.drop (start + Groups.zerosFrom gs start) = gs := by
  have zeros : (gs.drop start).takeWhile (· == 0) = List.replicate (Groups.zerosFrom gs start) 0 := by
    refine List.eq_replicate_iff.mpr ⟨rfl, fun g member => ?_⟩
    simpa using List.all_eq_true.mp List.all_takeWhile g member
  have others : gs.drop (start + Groups.zerosFrom gs start) = (gs.drop start).dropWhile (· == 0) := by
    rw [← List.drop_drop]
    conv_lhs => rw [← List.takeWhile_append_dropWhile (p := (· == 0)) (l := gs.drop start)]
    exact List.drop_left
  rw [← zeros, others, List.append_assoc, List.takeWhile_append_dropWhile, List.take_append_drop]

theorem groups_joined (gs : ClusterRouting.Groups) (closes : Closes rest) :
    groups (Groups.joined gs.toList ++ rest) = some (gs, rest) := by
  have whole := side_joined (show gs.toList.length ≤ 8 by simp) closes
  simp [groups, whole, eight?_toList]

theorem zerosFrom_le (gs : List UInt16) (start : Nat) : Groups.zerosFrom gs start ≤ gs.length - start := by
  have shorter := (List.takeWhile_sublist (l := gs.drop start) (· == 0)).length_le
  simpa [Groups.zerosFrom] using shorter

theorem groups_contracted (gs : ClusterRouting.Groups) (closes : Closes rest) :
    groups (Groups.contracted gs.toList ++ rest) = some (gs, rest) := by
  unfold Groups.contracted
  generalize Groups.longestZeros gs.toList = start
  dsimp only
  split
  · rename_i several
    have inside := zerosFrom_le gs.toList start
    have put_back := zeros_put_back gs.toList start
    generalize Groups.zerosFrom gs.toList start = zeros at *
    have eight : gs.toList.length = 8 := by simp
    have front := side_joined (show (gs.toList.take start).length ≤ 8 by rw [List.length_take]; omega)
      (closes_contraction (Groups.joined (gs.toList.drop (start + zeros)) ++ rest))
    have shorter : (gs.toList.drop (start + zeros)).length = 8 - (start + zeros) := by rw [List.length_drop, eight]
    have back := side_joined (show (gs.toList.drop (start + zeros)).length ≤ 8 - (start + 1) by omega) closes
    have front_length : (gs.toList.take start).length = start := by
      rw [List.length_take]
      omega
    have taken : 8 - start - (gs.toList.drop (start + zeros)).length = zeros := by omega
    have started : start ≠ 8 := by omega
    simp only [groups, List.append_assoc, List.cons_append, front, front_length, if_neg started, exactly_cons, back,
      Option.bind_eq_bind, Option.bind_some, taken, Bool.false_eq_true, if_false]
    rw [← List.append_assoc, put_back, eight?_toList]
    rfl
  · exact groups_joined gs closes

theorem pair_halves (g : UInt16) : pair (g >>> 8).toUInt8 g.toUInt8 = g := by
  refine UInt16.toNat_inj.mp ?_
  have small : g.toNat < 65536 := g.toNat_lt
  have shown : (pair (g >>> 8).toUInt8 g.toUInt8).toNat = (g.toNat >>> 8 % 256) <<< 8 % 65536 ||| g.toNat % 256 := by
    simp [pair]
  have high : (g.toNat >>> 8 % 256) <<< 8 % 65536 = (g.toNat / 256) <<< 8 := by
    simp only [Nat.shiftRight_eq_div_pow, Nat.shiftLeft_eq]
    omega
  rw [shown, high, ← Nat.shiftLeft_add_eq_or_of_lt (Nat.mod_lt _ (by decide)), Nat.shiftLeft_eq]
  omega

theorem mapped_some {gs : ClusterRouting.Groups} {o : Octets} (mapped : Groups.mapped? gs = some o) :
    gs.toList = [0, 0, 0, 0, 0, 0xffff, pair o.a o.b, pair o.c o.d] := by
  unfold Groups.mapped? at mapped
  split at mapped
  · rename_i high low shown
    cases mapped
    simpa [pair_halves] using shown
  · cases mapped

theorem side_octets (room : Nat) (o : Octets) (stops : Stops decimalDigit? rest) :
    side (room + 2) false (':' :: (o.written ++ rest)) = (⟨[pair o.a o.b, pair o.c o.d], true⟩, rest) := by
  simp [side, afterColon, exactly_cons, octets_written o stops]

theorem groups_mapped {gs : ClusterRouting.Groups} {o : Octets} (mapped : Groups.mapped? gs = some o)
    (closes : Closes rest) : groups ("::ffff:".toList ++ o.written ++ rest) = some (gs, rest) := by
  have spelled : "::ffff:".toList ++ o.written ++ rest =
      ':' :: ':' :: (hex (0xffff : UInt16).toNat ++ (':' :: (o.written ++ rest))) := rfl
  have front := side_closes 8 true (closes_contraction (hex (0xffff : UInt16).toNat ++ (':' :: (o.written ++ rest))))
  have back := side_group 6 true 0xffff (bounded_colon (o.written ++ rest))
  rw [side_octets 4 o closes.bounded.stops_decimal] at back
  have whole : eight? [0, 0, 0, 0, 0, 0xffff, pair o.a o.b, pair o.c o.d] = some gs := by
    rw [← eight?_toList gs, mapped_some mapped]
  simp only [if_true, List.nil_append] at back
  rw [spelled]
  simp only [groups, front, exactly_cons, Option.bind_eq_bind, Option.bind_some, List.length_nil, Nat.zero_add,
    Nat.reduceSub, back]
  simp [whole]

theorem groups_written (gs : ClusterRouting.Groups) (closes : Closes rest) :
    groups (gs.written ++ rest) = some (gs, rest) := by
  unfold Groups.written
  split
  · exact groups_mapped ‹_› closes
  · exact groups_contracted gs closes

end Hosts

theorem front_v4 (host : Octets) (p : UInt16) : front (v4 host p).written = some (v4 host p, []) := by
  obtain ⟨d, digit, later, first⟩ := decimal_cons host.a.toNat
  have others : ∀ d < 10, Nat.digitChar d ≠ '[' := by decide
  have no_bracket : exactly '[' (v4 host p).written = none := by
    simp [Address.written, Octets.written, first, exactly, others d digit]
  have host_read := octets_written host (bounded_colon (decimal p.toNat)).stops_decimal
  have port_read := port_decimal p (stops_nil _)
  rw [List.append_nil] at port_read
  simp only [front, no_bracket]
  simp [Address.written, host_read, port_read]

theorem front_v6 (host : ClusterRouting.Groups) (s : UInt32) (p : UInt16) :
    front (v6 host s p).written = some (v6 host s p, []) := by
  have port_read := port_decimal p (stops_nil _)
  rw [List.append_nil] at port_read
  by_cases unscoped : s = 0
  · subst unscoped
    have host_read := groups_written host (closes_bracket (':' :: decimal p.toNat))
    have no_scope : scope (']' :: ':' :: decimal p.toNat) = none := rfl
    simp [front, Address.written, exactly_cons, host_read, no_scope, port_read]
  · have host_read := groups_written host (closes_percent (decimal s.toNat ++ ']' :: ':' :: decimal p.toNat))
    have scope_read := scope_decimal s (closes_bracket (':' :: decimal p.toNat)).bounded.stops_decimal
    simp [front, Address.written, unscoped, exactly_cons, host_read, scope_read, port_read]

theorem ofText?_text (a : Address) : ofText? a.text = some a := by
  have read : front a.written = some (a, []) := by
    cases a with
    | v4 host p => exact front_v4 host p
    | v6 host s p => exact front_v6 host s p
  simp [ofText?, text, read]

end ClusterRouting.Address
