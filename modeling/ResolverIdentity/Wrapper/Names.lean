/-
  ResolverIdentity.Wrapper.Names: what `parse_dns_name` reads.

  The wire format of a name is a derivation over the message: a label, then the rest of the
  name behind it; a pointer, then the name where it points.  `parse_dns_name` follows it with
  one cursor that jumps, and refuses what would not end.

  Main results:
    * `parse_dns_name_iff`: what it returns, as a derivation;
    * `refused_of_parse_dns_name`, `parse_dns_name_of_refused`: when it returns nothing;
    * `parse_labels_turns`: more turns change nothing;
    * `parse_dns_name_exact`: names are read as the wire format spells them.
-/
import Mathlib.Algebra.Order.Ring.Int
import ResolverIdentity.Wrapper.Message

namespace ResolverIdentity.Wrapper

open Library

/-! ## §1. The wire format. -/

/-- Where a pointer of these two bytes points. -/
def target (high low : UInt8) : Nat := (high &&& 0x3f).toNat * 256 + low.toNat

/-- The bytes of the label whose length byte is at `cursor`. -/
def label_at (message : List UInt8) (cursor : Nat) (length : UInt8) : List UInt8 :=
  (message.drop (cursor + 1)).take length.toNat

/-- A label begins at `cursor`; its length is that of the byte there. -/
structure LabelAt (message : List UInt8) (cursor : Nat) (length : UInt8) : Prop where
  byte : message[cursor]? = some length
  nonzero : length ≠ 0
  plain : length &&& 0xc0 = 0

/-- A pointer begins at `cursor`, and its second byte is in the message. -/
structure PointerAt (message : List UInt8) (cursor : Nat) (high low : UInt8) : Prop where
  byte : message[cursor]? = some high
  marked : high &&& 0xc0 = 0xc0
  next : message[cursor + 1]? = some low

/-- The name at `cursor`: its labels, where the message goes on behind it, and where its
pointers point, in order. -/
inductive Spelled (message : List UInt8) :
    Nat → List (List UInt8) → Nat → List Nat → Prop where
  | root {cursor} (h : message[cursor]? = some 0) : Spelled message cursor [] (cursor + 1) []
  | label {cursor length labels finish pointers} (h : LabelAt message cursor length)
      (inside : cursor + 1 + length.toNat ≤ message.length)
      (rest : Spelled message (cursor + 1 + length.toNat) labels finish pointers) :
      Spelled message cursor (label_at message cursor length :: labels) finish pointers
  | pointer {cursor high low labels finish pointers} (h : PointerAt message cursor high low)
      (rest : Spelled message (target high low) labels finish pointers) :
      Spelled message cursor labels (cursor + 2) (target high low :: pointers)

/-- The bytes of the expanded name, the root's among them. -/
def wire_size (labels : List (List UInt8)) : Nat :=
  (labels.map (fun label => label.length + 1)).sum + 1

/-- Following the wire format from `start`: the labels and the pointers passed, and the
cursor.  There is no limit here, and no pointer is refused. -/
inductive Walk (message : List UInt8) (start : Nat) :
    List (List UInt8) → List Nat → Nat → Prop where
  | start : Walk message start [] [] start
  | label {labels pointers cursor length} (walk : Walk message start labels pointers cursor)
      (h : LabelAt message cursor length)
      (inside : cursor + 1 + length.toNat ≤ message.length) :
      Walk message start (labels ++ [label_at message cursor length]) pointers
        (cursor + 1 + length.toNat)
  | pointer {labels pointers cursor high low} (walk : Walk message start labels pointers cursor)
      (h : PointerAt message cursor high low) :
      Walk message start labels (pointers ++ [target high low]) (target high low)

/-- What is wrong with a name that was followed so far. -/
inductive Refused (message : List UInt8) (labels : List (List UInt8)) (pointers : List Nat)
    (cursor : Nat) : Prop where
  /-- The next byte is outside the message. -/
  | byte_outside (h : message.length ≤ cursor)
  /-- The second byte of the pointer is. -/
  | pointer_outside (high : UInt8) (byte : message[cursor]? = some high)
      (marked : high &&& 0xc0 = 0xc0) (h : message.length ≤ cursor + 1)
  /-- A byte of the label is. -/
  | label_outside (length : UInt8) (label : LabelAt message cursor length)
      (h : message.length < cursor + 1 + length.toNat)
  | repeated (h : ¬ pointers.Nodup)
  | reserved (byte : UInt8) (h : message[cursor]? = some byte) (marked : byte &&& 0xc0 ≠ 0)
      (other : byte &&& 0xc0 ≠ 0xc0)
  | too_long (h : 255 < wire_size labels)

section Names

variable {message : List UInt8}

/-- A property of every byte. -/
theorem forall_byte {p : UInt8 → Prop} (h : ∀ n : Fin 256, p (UInt8.ofNat n)) (byte : UInt8) :
    p byte := by
  have hbyte := h ⟨byte.toNat, byte.toNat_lt⟩
  simp only [UInt8.ofNat_toNat] at hbyte
  exact hbyte

/-- The length of a label fits in six bits. -/
theorem plain_le {length : UInt8} (h : length &&& 0xc0 = 0) : length.toNat ≤ 63 :=
  forall_byte (p := fun length => length &&& 0xc0 = 0 → length.toNat ≤ 63) (by decide +kernel)
    length h

/-- A label is not empty. -/
theorem LabelAt.pos {cursor : Nat} {length : UInt8} (h : LabelAt message cursor length) :
    1 ≤ length.toNat := by
  refine Nat.one_le_iff_ne_zero.mpr ?_
  intro hzero
  exact h.nonzero (UInt8.toNat_inj.mp hzero)

theorem label_at_length {cursor : Nat} {length : UInt8}
    (h : cursor + 1 + length.toNat ≤ message.length) :
    (label_at message cursor length).length = length.toNat := by
  unfold label_at
  rw [List.length_take, List.length_drop]
  omega

theorem wire_size_cons (label : List UInt8) (labels : List (List UInt8)) :
    wire_size (label :: labels) = label.length + 1 + wire_size labels := by
  unfold wire_size
  rw [List.map_cons, List.sum_cons]
  omega

theorem wire_size_append (labels rest : List (List UInt8)) :
    wire_size (labels ++ rest) + 1 = wire_size labels + wire_size rest := by
  unfold wire_size
  rw [List.map_append, List.sum_append]
  omega

/-- A name ends behind its start and within the message; its labels have 1 to 63 bytes. -/
theorem Spelled.bounds {cursor finish : Nat} {labels : List (List UInt8)} {pointers : List Nat}
    (h : Spelled message cursor labels finish pointers) :
    cursor < finish ∧ finish ≤ message.length ∧
      (∀ label ∈ labels, 1 ≤ label.length ∧ label.length ≤ 63) ∧
      ∀ pointer ∈ pointers, pointer < message.length := by
  induction h with
  | root h =>
    have hinside := (List.getElem?_eq_some_iff.mp h).1
    refine ⟨by omega, by omega, fun _ hmem => (nomatch hmem), fun _ hmem => (nomatch hmem)⟩
  | label h inside rest ih =>
    obtain ⟨hbehind, hfinish, hlabels, hpointers⟩ := ih
    refine ⟨by omega, hfinish, List.forall_mem_cons.mpr ⟨?_, hlabels⟩, hpointers⟩
    rw [label_at_length inside]
    exact ⟨h.pos, plain_le h.plain⟩
  | pointer h rest ih =>
    obtain ⟨hbehind, hfinish, hlabels, hpointers⟩ := ih
    have hinside := (List.getElem?_eq_some_iff.mp h.next).1
    exact ⟨by omega, by omega, hlabels, List.forall_mem_cons.mpr ⟨by omega, hpointers⟩⟩

/-- A label is no root and no pointer. -/
theorem Spelled.after_label {cursor finish : Nat} {length : UInt8} {raw : List (List UInt8)}
    {pointers : List Nat} (h : Spelled message cursor raw finish pointers)
    (hlabel : LabelAt message cursor length) :
    ∃ rest, raw = label_at message cursor length :: rest ∧
      cursor + 1 + length.toNat ≤ message.length ∧
      Spelled message (cursor + 1 + length.toNat) rest finish pointers := by
  cases h with
  | root h => exact absurd (Option.some.inj (hlabel.byte.symm.trans h)) hlabel.nonzero
  | label h inside rest =>
    have hsame := Option.some.inj (hlabel.byte.symm.trans h.byte)
    subst hsame
    exact ⟨_, rfl, inside, rest⟩
  | pointer h rest =>
    have hsame := Option.some.inj (hlabel.byte.symm.trans h.byte)
    subst hsame
    have hmarked := hlabel.plain.symm.trans h.marked
    exact absurd hmarked (by decide)

/-- A pointer is no root and no label. -/
theorem Spelled.after_pointer {cursor finish : Nat} {high low : UInt8} {raw : List (List UInt8)}
    {pointers : List Nat} (h : Spelled message cursor raw finish pointers)
    (hpointer : PointerAt message cursor high low) :
    finish = cursor + 2 ∧ ∃ rest behind, pointers = target high low :: rest ∧
      Spelled message (target high low) raw behind rest := by
  cases h with
  | root h =>
    have hmarked := hpointer.marked
    rw [Option.some.inj (hpointer.byte.symm.trans h)] at hmarked
    exact absurd hmarked (by decide)
  | label h inside rest =>
    have hsame := Option.some.inj (hpointer.byte.symm.trans h.byte)
    subst hsame
    have hmarked := h.plain.symm.trans hpointer.marked
    exact absurd hmarked (by decide)
  | pointer h rest =>
    have hhigh := Option.some.inj (hpointer.byte.symm.trans h.byte)
    have hlow := Option.some.inj (hpointer.next.symm.trans h.next)
    subst hhigh hlow
    exact ⟨rfl, _, _, rfl, rest⟩

/-- A root is no label and no pointer. -/
theorem Spelled.after_root {cursor finish : Nat} {raw : List (List UInt8)} {pointers : List Nat}
    (h : Spelled message cursor raw finish pointers) (hroot : message[cursor]? = some 0) :
    raw = [] ∧ finish = cursor + 1 ∧ pointers = [] := by
  cases h with
  | root h => exact ⟨rfl, rfl, rfl⟩
  | label h inside rest => exact absurd (Option.some.inj (h.byte.symm.trans hroot)) h.nonzero
  | pointer h rest =>
    have hmarked := h.marked
    rw [Option.some.inj (h.byte.symm.trans hroot)] at hmarked
    exact absurd hmarked (by decide)

/-- No name is behind a reserved byte. -/
theorem Spelled.not_reserved {cursor finish : Nat} {byte : UInt8} {raw : List (List UInt8)}
    {pointers : List Nat} (h : Spelled message cursor raw finish pointers)
    (hbyte : message[cursor]? = some byte) : byte &&& 0xc0 = 0 ∨ byte &&& 0xc0 = 0xc0 := by
  cases h with
  | root h => exact Or.inl (by rw [Option.some.inj (hbyte.symm.trans h)]; decide)
  | label h inside rest =>
    exact Or.inl (Option.some.inj (hbyte.symm.trans h.byte) ▸ h.plain)
  | pointer h rest =>
    exact Or.inr (Option.some.inj (hbyte.symm.trans h.byte) ▸ h.marked)

/-- A message spells one name at a cursor. -/
theorem Spelled.unique {cursor finish finish' : Nat} {raw raw' : List (List UInt8)}
    {pointers pointers' : List Nat} (h : Spelled message cursor raw finish pointers)
    (h' : Spelled message cursor raw' finish' pointers') :
    raw = raw' ∧ finish = finish' ∧ pointers = pointers' := by
  induction h generalizing raw' finish' pointers' with
  | root h =>
    obtain ⟨hraw, hfinish, hpointers⟩ := h'.after_root h
    exact ⟨hraw.symm, hfinish.symm, hpointers.symm⟩
  | label h inside rest ih =>
    obtain ⟨later, hlater, _, hrest⟩ := h'.after_label h
    obtain ⟨hraw, hfinish, hpointers⟩ := ih hrest
    rw [hlater, hraw]
    exact ⟨rfl, hfinish, hpointers⟩
  | pointer h rest ih =>
    obtain ⟨hfinish, later, behind, hlater, hrest⟩ := h'.after_pointer h
    obtain ⟨hraw, _, hpointers⟩ := ih hrest
    rw [hlater, hpointers]
    exact ⟨hraw, hfinish.symm, rfl⟩

/-- Labels have a size, so few of them fit. -/
theorem length_le_wire_size {labels : List (List UInt8)}
    (h : ∀ label ∈ labels, 1 ≤ label.length ∧ label.length ≤ 63) :
    2 * labels.length + 1 ≤ wire_size labels := by
  induction labels with
  | nil => exact le_rfl
  | cons label labels ih =>
    obtain ⟨hlabel, hlabels⟩ := List.forall_mem_cons.mp h
    have hrest := ih hlabels
    rw [wire_size_cons, List.length_cons]
    omega

/-- Pointers that are followed once are no more than the message has bytes. -/
theorem pointers_length_le {pointers : List Nat} (hnodup : pointers.Nodup)
    (h : ∀ pointer ∈ pointers, pointer < message.length) :
    pointers.length ≤ message.length := by
  have hsub : pointers ⊆ List.range message.length := by
    intro pointer hmem
    exact List.mem_range.mpr (h pointer hmem)
  have hlength := (List.subperm_of_subset hnodup hsub).length_le
  rw [List.length_range] at hlength
  exact hlength

/-! ## §2. One turn of the loop. -/

section Turn

variable {turns cursor wire_length : Nat} {resume : Option Nat} {visited : List Nat}
  {labels : List (List UInt8)}

/-- The root label ends the name. -/
theorem parse_labels_root (h : message[cursor]? = some 0) :
    parse_labels message (turns + 1) cursor resume visited labels wire_length =
      some (labels, resume.getD (cursor + 1)) := by
  rw [parse_labels, h]
  rfl

/-- A pointer is followed. -/
theorem parse_labels_pointer {high low : UInt8} (h : PointerAt message cursor high low) :
    parse_labels message (turns + 1) cursor resume visited labels wire_length =
      if message.length ≤ target high low || visited.contains (target high low) then none
      else parse_labels message turns (target high low) (some (resume.getD (cursor + 2)))
        (target high low :: visited) labels wire_length := by
  rw [parse_labels, h.byte]
  show (if high &&& 0xc0 = 0xc0 then _ else _) = _
  rw [if_pos h.marked, h.next]
  rfl

/-- A label is read, and the walk goes on behind it. -/
theorem parse_labels_label {length : UInt8} (h : LabelAt message cursor length) :
    parse_labels message (turns + 1) cursor resume visited labels wire_length =
      if 255 < wire_length + (length.toNat + 1) ||
          message.length < cursor + 1 + length.toNat then none
      else parse_labels message turns (cursor + 1 + length.toNat) resume visited
        (labels ++ [(label_at message cursor length).map to_ascii_lowercase])
        (wire_length + (length.toNat + 1)) := by
  rw [parse_labels, h.byte]
  show (if length &&& 0xc0 = 0xc0 then _ else _) = _
  have hshort : ¬ 63 < length := by
    rw [UInt8.lt_iff_toNat_lt]
    exact not_lt.mpr (plain_le h.plain)
  rw [h.plain, if_neg (by decide), if_neg (by simp [hshort]), if_neg h.nonzero]
  rfl

/-- What the byte at the cursor can be. -/
theorem cursor_cases (message : List UInt8) (cursor : Nat) :
    message.length ≤ cursor ∨ message[cursor]? = some 0 ∨
      (∃ length, LabelAt message cursor length) ∨
      (∃ high low, PointerAt message cursor high low) ∨
      (∃ high, message[cursor]? = some high ∧ high &&& 0xc0 = 0xc0 ∧
        message.length ≤ cursor + 1) ∨
      ∃ byte, message[cursor]? = some byte ∧ byte &&& 0xc0 ≠ 0 ∧ byte &&& 0xc0 ≠ 0xc0 := by
  by_cases houtside : message.length ≤ cursor
  · exact Or.inl houtside
  · have hinside : cursor < message.length := by omega
    obtain ⟨byte, hbyte⟩ : ∃ byte, message[cursor]? = some byte :=
      ⟨_, List.getElem?_eq_getElem hinside⟩
    by_cases hpointer : byte &&& 0xc0 = 0xc0
    · by_cases hlast : message.length ≤ cursor + 1
      · exact Or.inr (Or.inr (Or.inr (Or.inr (Or.inl ⟨byte, hbyte, hpointer, hlast⟩))))
      · have hnext : cursor + 1 < message.length := by omega
        exact Or.inr (Or.inr (Or.inr (Or.inl
          ⟨byte, _, hbyte, hpointer, List.getElem?_eq_getElem hnext⟩)))
    · by_cases hplain : byte &&& 0xc0 = 0
      · by_cases hzero : byte = 0
        · exact Or.inr (Or.inl (hzero ▸ hbyte))
        · exact Or.inr (Or.inr (Or.inl ⟨byte, hbyte, hzero, hplain⟩))
      · exact Or.inr (Or.inr (Or.inr (Or.inr (Or.inr ⟨byte, hbyte, hplain, hpointer⟩))))

end Turn

/-! ## §3. What the loop returns. -/

section Loop

/-- What the loop returns is spelled by the message, within the limits. -/
theorem spelled_of_parse_labels : ∀ {turns cursor wire_length : Nat} {resume : Option Nat}
    {visited : List Nat} {labels out : List (List UInt8)} {finish : Nat},
    parse_labels message turns cursor resume visited labels wire_length = some (out, finish) →
      wire_length ≤ 255 →
        ∃ raw behind pointers, Spelled message cursor raw behind pointers ∧ pointers.Nodup ∧
          (∀ pointer ∈ pointers, pointer ∉ visited) ∧ wire_length + wire_size raw ≤ 256 ∧
          out = labels ++ raw.map (·.map to_ascii_lowercase) ∧ finish = resume.getD behind := by
  intro turns
  induction turns with
  | zero => intro cursor wire_length resume visited labels out finish h; cases h
  | succ turns ih =>
    intro cursor wire_length resume visited labels out finish h hlength
    rcases cursor_cases message cursor with houtside | hroot | ⟨length, hlabel⟩ |
      ⟨high, low, hpointer⟩ | ⟨high, hbyte, hmarked, hlast⟩ | ⟨byte, hbyte, hmarked, hother⟩
    · -- outside the message, nothing is returned
      rw [parse_labels, List.getElem?_eq_none houtside] at h
      cases h
    · rw [parse_labels_root hroot] at h
      obtain ⟨hout, hfinish⟩ := Prod.mk.inj (Option.some.inj h)
      refine ⟨[], cursor + 1, [], .root hroot, List.nodup_nil, fun _ hmem => (nomatch hmem), ?_, ?_,
        hfinish.symm⟩
      · show wire_length + 1 ≤ 256
        omega
      · rw [List.map_nil, List.append_nil, hout]
    · rw [parse_labels_label hlabel] at h
      split at h
      · cases h
      · rename_i hinside
        simp only [Bool.or_eq_true, decide_eq_true_eq] at hinside
        have hfits : cursor + 1 + length.toNat ≤ message.length := by omega
        obtain ⟨raw, behind, pointers, hrest, hnodup, hnew, hsize, hout, hfinish⟩ :=
          ih h (by omega)
        refine ⟨label_at message cursor length :: raw, behind, pointers,
          .label hlabel hfits hrest, hnodup, hnew, ?_, ?_, hfinish⟩
        · rw [wire_size_cons, label_at_length hfits]
          omega
        · rw [hout, List.append_assoc]
          rfl
    · rw [parse_labels_pointer hpointer] at h
      split at h
      · cases h
      · rename_i hfresh
        rw [Bool.or_eq_true, not_or, List.contains_iff_mem] at hfresh
        obtain ⟨raw, behind, pointers, hrest, hnodup, hnew, hsize, hout, hfinish⟩ := ih h hlength
        refine ⟨raw, cursor + 2, target high low :: pointers, .pointer hpointer hrest,
          List.nodup_cons.mpr ⟨?_, hnodup⟩, List.forall_mem_cons.mpr ⟨hfresh.2, ?_⟩, hsize, hout,
          hfinish⟩
        · intro hmem
          exact hnew _ hmem List.mem_cons_self
        · intro pointer hmem hvisited
          exact hnew pointer hmem (List.mem_cons_of_mem _ hvisited)
    · -- a pointer whose second byte is missing, and a reserved mark
      rw [parse_labels, hbyte] at h
      change (if high &&& 0xc0 = 0xc0 then _ else _) = _ at h
      rw [if_pos hmarked, List.getElem?_eq_none hlast] at h
      cases h
    · rw [parse_labels, hbyte] at h
      change (if byte &&& 0xc0 = 0xc0 then _ else _) = _ at h
      rw [if_neg hother, if_pos (by simp [hmarked])] at h
      cases h

/-- A name within the limits is returned, when there are turns for its labels, its pointers
and its root. -/
theorem parse_labels_of_spelled {cursor behind : Nat} {raw : List (List UInt8)}
    {pointers : List Nat} (h : Spelled message cursor raw behind pointers) :
    ∀ {turns wire_length : Nat} {resume : Option Nat} {visited : List Nat}
      {labels : List (List UInt8)}, pointers.Nodup → (∀ pointer ∈ pointers, pointer ∉ visited) →
        wire_length + wire_size raw ≤ 256 → raw.length + pointers.length < turns →
          parse_labels message turns cursor resume visited labels wire_length =
            some (labels ++ raw.map (·.map to_ascii_lowercase), resume.getD behind) := by
  induction h with
  | root h =>
    intro turns wire_length resume visited labels _ _ _ hturns
    obtain ⟨turns, rfl⟩ := Nat.exists_eq_succ_of_ne_zero (by omega : turns ≠ 0)
    rw [parse_labels_root h, List.map_nil, List.append_nil]
  | @label cursor length raw behind pointers h inside rest ih =>
    intro turns wire_length resume visited labels hnodup hnew hsize hturns
    obtain ⟨turns, rfl⟩ := Nat.exists_eq_succ_of_ne_zero (by omega : turns ≠ 0)
    rw [wire_size_cons, label_at_length inside] at hsize
    rw [List.length_cons] at hturns
    -- a root is still to come, so there is room for one byte more
    have hpositive : 1 ≤ wire_size raw := Nat.le_add_left _ _
    have hfits : (decide (255 < wire_length + (length.toNat + 1)) ||
        decide (message.length < cursor + 1 + length.toNat)) = false := by
      rw [decide_eq_false (by omega), decide_eq_false (by omega)]
      rfl
    rw [parse_labels_label h, hfits, if_neg Bool.false_ne_true,
      ih hnodup hnew (by omega) (by omega), List.append_assoc]
    rfl
  | @pointer cursor high low raw behind pointers h rest ih =>
    intro turns wire_length resume visited labels hnodup hnew hsize hturns
    obtain ⟨turns, rfl⟩ := Nat.exists_eq_succ_of_ne_zero (by omega : turns ≠ 0)
    obtain ⟨hfirst, hnodup⟩ := List.nodup_cons.mp hnodup
    obtain ⟨hfresh, hnew⟩ := List.forall_mem_cons.mp hnew
    rw [List.length_cons] at hturns
    -- something is spelled at the target, so it lies inside
    have hinside : target high low < message.length := by
      have hbounds := rest.bounds
      omega
    have hok : (decide (message.length ≤ target high low) ||
        visited.contains (target high low)) = false := by
      rw [decide_eq_false (by omega), Bool.false_or]
      exact Bool.eq_false_iff.mpr (fun h => hfresh (List.contains_iff_mem.mp h))
    rw [parse_labels_pointer h, hok, if_neg Bool.false_ne_true,
      ih hnodup ?_ hsize (by omega)]
    · rfl
    · intro pointer hmem hvisited
      rcases List.mem_cons.mp hvisited with heq | hold
      · exact hfirst (heq ▸ hmem)
      · exact hnew pointer hmem hold

/-- A name within the limits has fewer labels and pointers than the loop may take turns. -/
theorem Spelled.turns_le {cursor behind : Nat} {raw : List (List UInt8)} {pointers : List Nat}
    (h : Spelled message cursor raw behind pointers) (hnodup : pointers.Nodup)
    (hsize : wire_size raw ≤ 255) : raw.length + pointers.length < message.length + 128 := by
  obtain ⟨_, _, hlabels, hpointers⟩ := h.bounds
  have hraw := length_le_wire_size hlabels
  have hfollowed := pointers_length_le hnodup hpointers
  omega

/-- What `parse_dns_name` returns; it stays so with more turns. -/
theorem parse_labels_iff {turns offset finish : Nat} {labels : List (List UInt8)}
    (hturns : message.length + 128 ≤ turns) :
    parse_labels message turns offset none [] [] 1 = some (labels, finish) ↔
      ∃ raw pointers, Spelled message offset raw finish pointers ∧ pointers.Nodup ∧
        wire_size raw ≤ 255 ∧ labels = raw.map (·.map to_ascii_lowercase) := by
  constructor
  · intro h
    obtain ⟨raw, behind, pointers, hspelled, hnodup, _, hsize, hout, hfinish⟩ :=
      spelled_of_parse_labels h (by omega)
    rw [hfinish]
    exact ⟨raw, pointers, hspelled, hnodup, by omega, hout⟩
  · intro h
    obtain ⟨raw, pointers, hspelled, hnodup, hsize, hout⟩ := h
    have hfew := hspelled.turns_le hnodup hsize
    rw [parse_labels_of_spelled hspelled hnodup (fun _ _ => List.not_mem_nil) (by omega)
      (by omega), hout]
    rfl

/-- A parsed name is one that is there. -/
theorem parse_dns_name_iff {offset finish : Nat} {labels : List (List UInt8)} :
    parse_dns_name message offset = some (labels, finish) ↔
      ∃ raw pointers, Spelled message offset raw finish pointers ∧ pointers.Nodup ∧
        wire_size raw ≤ 255 ∧ labels = raw.map (·.map to_ascii_lowercase) :=
  parse_labels_iff le_rfl

/-- More turns change nothing. -/
theorem parse_labels_turns {turns : Nat} (offset : Nat) (h : message.length + 128 ≤ turns) :
    parse_labels message turns offset none [] [] 1 = parse_dns_name message offset := by
  refine Option.ext ?_
  intro out
  rw [parse_labels_iff h, parse_dns_name_iff]

end Loop

/-! ## §4. What the loop refuses. -/

section Refusals

variable {start : Nat}

/-- A walk from the start of a name stays on it. -/
theorem Walk.rest {cursor finish : Nat} {raw labels : List (List UInt8)} {all pointers : List Nat}
    (hspelled : Spelled message start raw finish all)
    (h : Walk message start labels pointers cursor) :
    ∃ later behind followed, Spelled message cursor later behind followed ∧
      raw = labels ++ later ∧ all = pointers ++ followed := by
  induction h with
  | start => exact ⟨raw, finish, all, hspelled, rfl, rfl⟩
  | label walk h inside ih =>
    obtain ⟨later, behind, followed, hlater, hraw, hall⟩ := ih
    obtain ⟨rest, hrest, _, hspelled⟩ := hlater.after_label h
    refine ⟨rest, behind, followed, hspelled, ?_, hall⟩
    rw [hraw, hrest, List.append_assoc]
    rfl
  | pointer walk h ih =>
    obtain ⟨later, behind, followed, hlater, hraw, hall⟩ := ih
    obtain ⟨_, rest, behind, hrest, hspelled⟩ := hlater.after_pointer h
    refine ⟨later, behind, rest, hspelled, hraw, ?_⟩
    rw [hall, hrest, List.append_assoc]
    rfl

/-- Nothing of a name within the limits is refused. -/
theorem not_refused {cursor finish : Nat} {raw labels : List (List UInt8)}
    {all pointers : List Nat} (hspelled : Spelled message start raw finish all)
    (hnodup : all.Nodup) (hsize : wire_size raw ≤ 255)
    (h : Walk message start labels pointers cursor) :
    ¬ Refused message labels pointers cursor := by
  obtain ⟨later, behind, followed, hlater, hraw, hall⟩ := h.rest hspelled
  have hbounds := hlater.bounds
  intro hrefused
  cases hrefused with
  | byte_outside h => omega
  | pointer_outside high byte marked h =>
    cases hlater with
    | root h' =>
      rw [Option.some.inj (byte.symm.trans h')] at marked
      exact absurd marked (by decide)
    | label h' inside rest =>
      rw [Option.some.inj (byte.symm.trans h'.byte), h'.plain] at marked
      exact absurd marked (by decide)
    | pointer h' rest =>
      have hinside := (List.getElem?_eq_some_iff.mp h'.next).1
      omega
  | label_outside length label h =>
    obtain ⟨_, _, hinside, _⟩ := hlater.after_label label
    omega
  | repeated h =>
    rw [hall] at hnodup
    exact h hnodup.of_append_left
  | reserved byte h marked other =>
    rcases hlater.not_reserved h with hplain | hmarked
    · exact marked hplain
    · exact other hmarked
  | too_long h =>
    have hparts := wire_size_append labels later
    have hpositive : 1 ≤ wire_size later := Nat.le_add_left _ _
    rw [← hraw] at hparts
    omega

/-- The labels a walk has passed have 1 to 63 bytes. -/
theorem Walk.labels_bounds {cursor : Nat} {labels : List (List UInt8)} {pointers : List Nat}
    (h : Walk message start labels pointers cursor) :
    ∀ label ∈ labels, 1 ≤ label.length ∧ label.length ≤ 63 := by
  induction h with
  | start => exact fun _ hmem => (nomatch hmem)
  | label walk h inside ih =>
    intro label hmem
    rcases List.mem_append.mp hmem with hold | hnew
    · exact ih label hold
    · rw [List.mem_singleton.mp hnew, label_at_length inside]
      exact ⟨h.pos, plain_le h.plain⟩
  | pointer walk h ih => exact ih

/-- Where the loop returns nothing, the walk has come to something that is refused. -/
theorem refused_of_parse_labels : ∀ {turns cursor : Nat} {resume : Option Nat}
    {raw out : List (List UInt8)} {pointers : List Nat},
    Walk message start raw pointers cursor → pointers.Nodup →
      (∀ pointer ∈ pointers, pointer < message.length) → wire_size raw ≤ 255 →
        message.length + 128 ≤ turns + (raw.length + pointers.length) →
          parse_labels message turns cursor resume pointers.reverse out (wire_size raw) = none →
            ∃ labels followed finish, Walk message start labels followed finish ∧
              labels.length + followed.length ≤ message.length + 128 ∧
              Refused message labels followed finish := by
  intro turns
  induction turns with
  | zero =>
    intro cursor resume raw out pointers hwalk hnodup hinside hsize hturns h
    -- labels and pointers together are too few to use up the turns
    have hraw := length_le_wire_size hwalk.labels_bounds
    have hfollowed := pointers_length_le hnodup hinside
    omega
  | succ turns ih =>
    intro cursor resume raw out pointers hwalk hnodup hinside hsize hturns h
    have hraw := length_le_wire_size hwalk.labels_bounds
    have hfollowed := pointers_length_le hnodup hinside
    -- what the byte at the cursor is
    rcases cursor_cases message cursor with houtside | hroot | ⟨length, hlabel⟩ |
      ⟨high, low, hpointer⟩ | ⟨high, hbyte, hmarked, hlast⟩ | ⟨byte, hbyte, hmarked, hother⟩
    · exact ⟨raw, pointers, cursor, hwalk, by omega, .byte_outside houtside⟩
    · rw [parse_labels_root hroot] at h
      cases h
    · -- a label may end outside, or make the name too long
      by_cases hfits : cursor + 1 + length.toNat ≤ message.length
      · have hnext := Walk.label hwalk hlabel hfits
        have hgrown : wire_size (raw ++ [label_at message cursor length]) =
            wire_size raw + (length.toNat + 1) := by
          have hparts := wire_size_append raw [label_at message cursor length]
          have hone : wire_size [label_at message cursor length] = length.toNat + 1 + 1 := by
            rw [wire_size_cons, label_at_length hfits]
            rfl
          omega
        by_cases hlong : 255 < wire_size raw + (length.toNat + 1)
        · refine ⟨_, pointers, _, hnext, ?_, .too_long (by omega)⟩
          rw [List.length_append, List.length_singleton]
          omega
        · have hok : (decide (255 < wire_size raw + (length.toNat + 1)) ||
              decide (message.length < cursor + 1 + length.toNat)) = false := by
            rw [decide_eq_false hlong, decide_eq_false (by omega)]
            rfl
          rw [parse_labels_label hlabel, hok, if_neg Bool.false_ne_true, ← hgrown] at h
          refine ih hnext hnodup hinside (by omega) ?_ h
          rw [List.length_append, List.length_singleton]
          omega
      · exact ⟨raw, pointers, cursor, hwalk, by omega, .label_outside length hlabel (by omega)⟩
    · -- a pointer may lead outside, or where the walk has been
      have hnext := Walk.pointer hwalk hpointer
      have hlonger : (pointers ++ [target high low]).length = pointers.length + 1 := by
        rw [List.length_append, List.length_singleton]
      by_cases htarget : message.length ≤ target high low
      · exact ⟨raw, _, _, hnext, by omega, .byte_outside htarget⟩
      · by_cases hseen : target high low ∈ pointers
        · refine ⟨raw, _, _, hnext, by omega, .repeated ?_⟩
          intro hnew
          exact (List.nodup_append.mp hnew).2.2 _ hseen _ (List.mem_singleton.mpr rfl) rfl
        · have hok : (decide (message.length ≤ target high low) ||
              pointers.reverse.contains (target high low)) = false := by
            rw [decide_eq_false htarget, Bool.false_or]
            refine Bool.eq_false_iff.mpr ?_
            intro hvisited
            exact hseen (List.mem_reverse.mp (List.contains_iff_mem.mp hvisited))
          have hreversed : target high low :: pointers.reverse =
              (pointers ++ [target high low]).reverse := by
            rw [List.reverse_append]
            rfl
          rw [parse_labels_pointer hpointer, hok, if_neg Bool.false_ne_true, hreversed] at h
          refine ih hnext ?_ ?_ hsize (by omega) h
          · refine List.nodup_append.mpr ⟨hnodup, List.nodup_singleton _, ?_⟩
            intro pointer hmem other hother heq
            exact hseen (List.mem_singleton.mp hother ▸ heq ▸ hmem)
          · intro pointer hmem
            rcases List.mem_append.mp hmem with hold | hnew
            · exact hinside pointer hold
            · rw [List.mem_singleton.mp hnew]
              omega
    · exact ⟨raw, pointers, cursor, hwalk, by omega, .pointer_outside high hbyte hmarked hlast⟩
    · exact ⟨raw, pointers, cursor, hwalk, by omega, .reserved byte hbyte hmarked hother⟩

end Refusals

/-! ## §5. Names, exactly. -/

/-- Lower case takes as many bytes. -/
theorem wire_size_lower (raw : List (List UInt8)) :
    wire_size (raw.map (·.map to_ascii_lowercase)) = wire_size raw := by
  unfold wire_size
  rw [List.map_map]
  refine congrArg (fun sizes => sizes.sum + 1) (List.map_congr_left ?_)
  intro label _
  exact congrArg (· + 1) (List.length_map _)

/-- Nothing is returned where something is refused on the way. -/
theorem parse_dns_name_of_refused {offset cursor : Nat} {labels : List (List UInt8)}
    {pointers : List Nat} (hwalk : Walk message offset labels pointers cursor)
    (hrefused : Refused message labels pointers cursor) : parse_dns_name message offset = none := by
  refine Option.eq_none_iff_forall_not_mem.mpr ?_
  intro out hout
  obtain ⟨raw, all, hspelled, hnodup, hsize, _⟩ := parse_dns_name_iff.mp hout
  exact not_refused hspelled hnodup hsize hwalk hrefused

/-- Nothing is returned only there, and it is found within the turns of the loop. -/
theorem refused_of_parse_dns_name {offset : Nat} (h : parse_dns_name message offset = none) :
    ∃ labels pointers cursor, Walk message offset labels pointers cursor ∧
      labels.length + pointers.length ≤ message.length + 128 ∧
      Refused message labels pointers cursor := by
  unfold parse_dns_name at h
  refine refused_of_parse_labels .start List.nodup_nil ?_ (by decide) (Nat.le_add_right _ _) h
  intro pointer hmem
  cases hmem

/-- `parse_dns_name` ends within `message.length + 128` turns, wherever it starts.  What it
returns are the lower-cased labels that the wire format spells from there, and where the
message goes on: behind the start, within the message.  It returns nothing exactly where the
wire format leads to a byte outside the message, to a target it has been to, to a reserved
label type, or past 255 bytes. -/
theorem parse_dns_name_exact (message : List UInt8) (offset : Nat) :
    (∀ turns, message.length + 128 ≤ turns →
      parse_labels message turns offset none [] [] 1 = parse_dns_name message offset) ∧
    (∀ labels finish, parse_dns_name message offset = some (labels, finish) ↔
      ∃ raw pointers, Spelled message offset raw finish pointers ∧ pointers.Nodup ∧
        wire_size raw ≤ 255 ∧ labels = raw.map (·.map to_ascii_lowercase)) ∧
    (∀ labels finish, parse_dns_name message offset = some (labels, finish) →
      offset < finish ∧ finish ≤ message.length ∧ wire_size labels ≤ 255 ∧
        ∀ label ∈ labels, 1 ≤ label.length ∧ label.length ≤ 63) ∧
    (parse_dns_name message offset = none →
      ∃ labels pointers cursor, Walk message offset labels pointers cursor ∧
        labels.length + pointers.length ≤ message.length + 128 ∧
        Refused message labels pointers cursor) ∧
    ∀ labels pointers cursor, Walk message offset labels pointers cursor →
      Refused message labels pointers cursor → parse_dns_name message offset = none := by
  refine ⟨fun turns h => parse_labels_turns offset h, fun labels finish => parse_dns_name_iff,
    ?_, refused_of_parse_dns_name,
    fun labels pointers cursor hwalk => parse_dns_name_of_refused hwalk⟩
  intro labels finish h
  obtain ⟨raw, pointers, hspelled, hnodup, hsize, hout⟩ := parse_dns_name_iff.mp h
  obtain ⟨hbehind, hfinish, hlabels, _⟩ := hspelled.bounds
  rw [hout]
  refine ⟨hbehind, hfinish, (wire_size_lower raw).trans_le hsize, ?_⟩
  intro label hmem
  obtain ⟨written, hwritten, heq⟩ := List.mem_map.mp hmem
  rw [← heq, List.length_map]
  exact hlabels written hwritten

/-- The name of an answer points to that of its question. -/
theorem pointed_name :
    parse_dns_name [0, 7, 1, 0, 0, 1, 0, 0, 0, 0, 0, 0, 2, 73, 100, 0, 192, 12] 16 =
        some ([[105, 100]], 18) ∧
      16 < 18 ∧ wire_size [[105, 100]] ≤ 255 := by
  obtain ⟨_, hreturns, hbounds, _⟩ := parse_dns_name_exact
    [0, 7, 1, 0, 0, 1, 0, 0, 0, 0, 0, 0, 2, 73, 100, 0, 192, 12] 16
  have hread := (hreturns [[105, 100]] 18).mpr ⟨[[73, 100]], [12],
    @Spelled.pointer _ 16 192 12 _ _ _ ⟨rfl, rfl, rfl⟩
      (@Spelled.label _ 12 2 _ _ _ ⟨rfl, by decide, rfl⟩ (by decide) (.root rfl)),
    by decide, by decide, rfl⟩
  obtain ⟨hbehind, _, hsize, _⟩ := hbounds _ _ hread
  exact ⟨hread, hbehind, hsize⟩

end Names

end ResolverIdentity.Wrapper
