/-
  ResolverIdentity.Wrapper.Servfail: what `make_servfail` answers.

  The answer to a query that failed is the query with another header.  Its counts say that no
  record follows the questions, and the records of the query still do; and where the name of
  a question points into the header, it is read from the header of the answer.

  Main results:
    * `kept_iff`: the names that the answer spells as the query does;
    * `question_list_kept`: the questions that it repeats;
    * `servfail_answers_iff`: the queries that it answers.
-/
import ResolverIdentity.Core.Recorded
import ResolverIdentity.Wrapper.Names

namespace ResolverIdentity.Wrapper

open Library

/-! ## §1. Messages that end where their counts say. -/

/-- The offset behind the questions. -/
def question_list_end (message : List UInt8) : Nat → Nat → Option Nat
  | 0, offset => some offset
  | questions + 1, offset => do
    let (_, offset) ← parse_dns_name message offset
    if message.length < offset + 4 then none
    else question_list_end message questions (offset + 4)

/-- The offset behind the questions. -/
def question_end (message : List UInt8) : Option Nat :=
  question_list_end message (u16_at message 4) 12

/-- The offset behind further records. -/
def record_list_end (message : List UInt8) : Nat → Nat → Option Nat
  | 0, offset => some offset
  | records + 1, offset => do
    let (_, offset) ← parse_dns_name message offset
    if message.length < offset + 10 then none
    else
      let offset := offset + 10 + u16_at message (offset + 8)
      if message.length < offset then none else record_list_end message records offset

/-- The offset behind all the sections that the header counts. -/
def message_end (message : List UInt8) : Option Nat := do
  let offset ← question_end message
  record_list_end message (u16_at message 6 + u16_at message 8 + u16_at message 10) offset

/-- Where the names of the questions begin. -/
def question_list_names (message : List UInt8) : Nat → Nat → List Nat
  | 0, _ => []
  | questions + 1, offset =>
    match parse_dns_name message offset with
    | none => []
    | some (_, finish) => offset :: question_list_names message questions (finish + 4)

/-- Where the names of the questions begin. -/
def question_names (message : List UInt8) : List Nat :=
  question_list_names message (u16_at message 4) 12

/-- The failure answers the query, and is a message of its own. -/
def Answered (query : List UInt8) : Prop :=
  valid_response query (make_servfail query) = true ∧
  byte_at (make_servfail query) 3 &&& 0x0f = 2 ∧
  message_end (make_servfail query) = some (make_servfail query).length

/-! ## §2. The header of an answer. -/

/-- The flags of an answer, next to those of its query. -/
def answer_flags (byte : UInt8) : UInt8 := 0x80 ||| (byte &&& 0x79)

/-- A byte of the query under the header of an answer. -/
def answer_byte (i : Nat) (byte : UInt8) : UInt8 :=
  if i = 2 then answer_flags byte
  else if i = 3 then 0x80 ||| (byte &&& 0x10) ||| 0x02
  else if 6 ≤ i && i < 12 then 0
  else byte

/-- The query under the header of an answer. -/
def as_answer (query : List UInt8) : List UInt8 := query.mapIdx answer_byte

/-- The byte is the same in the header of an answer. -/
def Keeps (i : Nat) (byte : UInt8) : Prop :=
  i ≠ 2 ∧ (i = 3 → byte = 0x82 ∨ byte = 0x92) ∧ (6 ≤ i → i < 12 → byte = 0)

/-- The byte is the query's own. -/
def Unaltered (query : List UInt8) (i : Nat) : Prop := Keeps i (byte_at query i)

/-- A label of the query under the header of an answer. -/
def patched_label (query : List UInt8) (cursor : Nat) (length : UInt8) : List UInt8 :=
  (label_at query cursor length).mapIdx (fun i byte => answer_byte (cursor + 1 + i) byte)

/-- The name at the cursor of the query, each of its bytes read as an answer has it: the labels,
and where the pointers point. -/
inductive Patched (query : List UInt8) : Nat → List (List UInt8) → List Nat → Prop where
  | root {cursor byte} (h : query[cursor]? = some byte) (cleared : answer_byte cursor byte = 0) :
      Patched query cursor [] []
  | label {cursor byte labels pointers} (h : query[cursor]? = some byte)
      (nonzero : answer_byte cursor byte ≠ 0) (plain : answer_byte cursor byte &&& 0xc0 = 0)
      (inside : cursor + 1 + (answer_byte cursor byte).toNat ≤ query.length)
      (rest : Patched query (cursor + 1 + (answer_byte cursor byte).toNat) labels pointers) :
      Patched query cursor (patched_label query cursor (answer_byte cursor byte) :: labels) pointers
  | pointer {cursor high low labels pointers} (h : query[cursor]? = some high)
      (marked : answer_byte cursor high &&& 0xc0 = 0xc0) (next : query[cursor + 1]? = some low)
      (rest : Patched query (target (answer_byte cursor high) (answer_byte (cursor + 1) low)) labels
        pointers) :
      Patched query cursor labels
        (target (answer_byte cursor high) (answer_byte (cursor + 1) low) :: pointers)

/-- The name at the cursor, behind the pointers `passed`, is read from bytes that an answer
leaves as they are.  Two names are also kept: one that is cut where nothing more follows, and
one whose pointer from the second byte of the transaction id is moved by the flags of the
answer to the same labels. -/
inductive Kept (query : List UInt8) : List Nat → Nat → Prop where
  | root {passed cursor} (h : query[cursor]? = some 0) (unaltered : Unaltered query cursor) :
      Kept query passed cursor
  | label {passed cursor length} (h : LabelAt query cursor length)
      (unaltered : ∀ i, cursor ≤ i → i < cursor + 1 + length.toNat → Unaltered query i)
      (rest : Kept query passed (cursor + 1 + length.toNat)) : Kept query passed cursor
  | pointer {passed cursor high low} (h : PointerAt query cursor high low)
      (unaltered : Unaltered query cursor) (next : Unaltered query (cursor + 1))
      (rest : Kept query (passed ++ [target high low]) (target high low)) :
      Kept query passed cursor
  | cut {passed cursor high low behind pointers} (h : PointerAt query cursor high low)
      (first : 6 ≤ cursor) (last : cursor < 12)
      (rest : Spelled query (target high low) [] behind pointers) : Kept query passed cursor
  | moved {passed high low labels behind pointers labels' pointers'}
      (h : PointerAt query 1 high low)
      (here : Spelled query (target high low) labels behind pointers)
      (there : Patched query (target high (answer_flags low)) labels' pointers')
      (same : labels'.map (·.map to_ascii_lowercase) = labels.map (·.map to_ascii_lowercase))
      (nodup : (passed ++ target high (answer_flags low) :: pointers').Nodup) :
      Kept query passed 1

section Header

variable {query : List UInt8}

theorem as_answer_length : (as_answer query).length = query.length := List.length_mapIdx

theorem as_answer_getElem? (i : Nat) :
    (as_answer query)[i]? = query[i]?.map (answer_byte i) := List.getElem?_mapIdx

/-- The reply is the query, byte by byte. -/
theorem make_servfail_eq (h : 12 ≤ query.length) : make_servfail query = as_answer query := by
  unfold make_servfail
  rw [if_neg (by omega)]
  rfl

/-- A byte that is kept. -/
theorem answer_byte_of_keeps {i : Nat} {byte : UInt8} (h : Keeps i byte) :
    answer_byte i byte = byte := by
  obtain ⟨hflags, hcode, hcounts⟩ := h
  unfold answer_byte
  rw [if_neg hflags]
  by_cases hthree : i = 3
  · rw [if_pos hthree]
    rcases hcode hthree with hbyte | hbyte <;> rw [hbyte] <;> decide
  · rw [if_neg hthree]
    by_cases hcount : (decide (6 ≤ i) && decide (i < 12)) = true
    · rw [if_pos hcount]
      simp only [Bool.and_eq_true, decide_eq_true_eq] at hcount
      exact (hcounts hcount.1 hcount.2).symm
    · rw [if_neg hcount]

/-- Bytes that read alike in a label are kept. -/
theorem keeps_of_lowercase {i : Nat} {byte : UInt8} (hquery : i = 2 → byte &&& 0x80 = 0)
    (h : to_ascii_lowercase (answer_byte i byte) = to_ascii_lowercase byte) : Keeps i byte := by
  unfold answer_byte at h
  refine ⟨?_, ?_, ?_⟩
  · intro hflags
    rw [if_pos hflags] at h
    have hall := forall_byte (p := fun byte => byte &&& 0x80 = 0 →
      to_ascii_lowercase (answer_flags byte) ≠ to_ascii_lowercase byte) (by decide +kernel) byte
    exact hall (hquery hflags) h
  · intro hcode
    rw [if_neg (by omega), if_pos hcode] at h
    exact forall_byte (p := fun byte => to_ascii_lowercase (0x80 ||| (byte &&& 0x10) ||| 0x02) =
      to_ascii_lowercase byte → byte = 0x82 ∨ byte = 0x92) (by decide +kernel) byte h
  · intro hfirst hlast
    rw [if_neg (by omega), if_neg (by omega), if_pos (by simp [hfirst, hlast])] at h
    exact forall_byte (p := fun byte => to_ascii_lowercase 0 = to_ascii_lowercase byte → byte = 0)
      (by decide +kernel) byte h

/-- Behind the header nothing changes, and no byte of the header that is not named does. -/
theorem as_answer_getElem?_of_unaltered {i : Nat} (h : Unaltered query i) :
    (as_answer query)[i]? = query[i]? := by
  rw [as_answer_getElem?]
  cases hbyte : query[i]? with
  | none => rfl
  | some byte =>
    have hkeeps : Keeps i byte := by
      unfold Unaltered byte_at at h
      rw [List.getD_eq_getElem?_getD, hbyte] at h
      exact h
    exact congrArg some (answer_byte_of_keeps hkeeps)

theorem unaltered_of_le {i : Nat} (h : 12 ≤ i) : Unaltered query i :=
  ⟨by omega, by omega, by omega⟩

theorem as_answer_getElem?_of_le {i : Nat} (h : 12 ≤ i) : (as_answer query)[i]? = query[i]? :=
  as_answer_getElem?_of_unaltered (unaltered_of_le h)

/-- The counts of records are cleared. -/
theorem as_answer_getElem?_of_count {i : Nat} {byte : UInt8} (h : query[i]? = some byte)
    (hfirst : 6 ≤ i) (hlast : i < 12) : (as_answer query)[i]? = some 0 := by
  have hcleared : answer_byte i byte = 0 := by
    unfold answer_byte
    rw [if_neg (by omega), if_neg (by omega), if_pos (by simp [hfirst, hlast])]
  rw [as_answer_getElem?, h, Option.map_some, hcleared]

end Header

/-! ## §3. Names under another header. -/

section Kept

variable {query : List UInt8}

/-- A label of unaltered bytes is the same in the answer. -/
theorem label_at_of_unaltered {cursor : Nat} {length : UInt8}
    (h : ∀ i, cursor ≤ i → i < cursor + 1 + length.toNat → Unaltered query i) :
    label_at (as_answer query) cursor length = label_at query cursor length := by
  unfold label_at
  refine List.ext_getElem? ?_
  intro i
  rw [List.getElem?_take, List.getElem?_take]
  by_cases hi : i < length.toNat
  · rw [if_pos hi, if_pos hi, List.getElem?_drop, List.getElem?_drop,
      as_answer_getElem?_of_unaltered (h _ (by omega) (by omega))]
  · rw [if_neg hi, if_neg hi]

/-- The label the reply has there. -/
theorem label_at_as_answer (cursor : Nat) (length : UInt8) :
    label_at (as_answer query) cursor length = patched_label query cursor length := by
  unfold patched_label label_at
  refine List.ext_getElem? ?_
  intro i
  rw [List.getElem?_mapIdx, List.getElem?_take, List.getElem?_take]
  by_cases hi : i < length.toNat
  · rw [if_pos hi, if_pos hi, List.getElem?_drop, List.getElem?_drop, as_answer_getElem?]
  · rw [if_neg hi, if_neg hi]
    rfl

/-- Reading the query's bytes so is reading the answer. -/
theorem patched_iff {cursor : Nat} {labels : List (List UInt8)} {pointers : List Nat} :
    Patched query cursor labels pointers ↔
      ∃ behind, Spelled (as_answer query) cursor labels behind pointers := by
  have hread : ∀ {i : Nat} {byte : UInt8}, query[i]? = some byte →
      (as_answer query)[i]? = some (answer_byte i byte) := by
    intro i byte hbyte
    rw [as_answer_getElem?, hbyte, Option.map_some]
  have hwritten : ∀ {i : Nat} {byte : UInt8}, (as_answer query)[i]? = some byte →
      ∃ before, query[i]? = some before ∧ answer_byte i before = byte := by
    intro i byte hbyte
    rw [as_answer_getElem?] at hbyte
    exact Option.map_eq_some_iff.mp hbyte
  constructor
  · intro h
    induction h with
    | root h cleared => exact ⟨_, .root ((hread h).trans (congrArg some cleared))⟩
    | label h nonzero plain inside rest ih =>
      obtain ⟨behind, ih⟩ := ih
      rw [← label_at_as_answer]
      exact ⟨behind, .label ⟨hread h, nonzero, plain⟩ (inside.trans (le_of_eq as_answer_length.symm)) ih⟩
    | pointer h marked next rest ih =>
      obtain ⟨behind, ih⟩ := ih
      exact ⟨_, .pointer ⟨hread h, marked, hread next⟩ ih⟩
  · rintro ⟨behind, h⟩
    induction h with
    | root h =>
      obtain ⟨byte, hbyte, hcleared⟩ := hwritten h
      exact .root hbyte hcleared
    | label h inside rest ih =>
      obtain ⟨byte, hbyte, rfl⟩ := hwritten h.byte
      rw [label_at_as_answer]
      exact .label hbyte h.nonzero h.plain (inside.trans (le_of_eq as_answer_length)) ih
    | pointer h rest ih =>
      obtain ⟨high, hhigh, rfl⟩ := hwritten h.byte
      obtain ⟨low, hlow, rfl⟩ := hwritten h.next
      exact .pointer hhigh h.marked hlow ih

/-- The answer spells a name that is kept with the same labels, and passes no pointer
twice either. -/
theorem spelled_of_kept {passed : List Nat} {cursor : Nat} (h : Kept query passed cursor) :
    ∀ {raw : List (List UInt8)} {behind : Nat} {pointers : List Nat},
      Spelled query cursor raw behind pointers → (passed ++ pointers).Nodup →
        ∃ raw' behind' pointers', Spelled (as_answer query) cursor raw' behind' pointers' ∧
          raw'.map (·.map to_ascii_lowercase) = raw.map (·.map to_ascii_lowercase) ∧
          (passed ++ pointers').Nodup := by
  induction h with
  | @root passed cursor h unaltered =>
    -- an unaltered root ends both names
    intro raw behind pointers hspelled hnodup
    obtain ⟨hraw, _, hpointers⟩ := hspelled.after_root h
    rw [← as_answer_getElem?_of_unaltered unaltered] at h
    refine ⟨[], cursor + 1, [], .root h, by rw [hraw], ?_⟩
    rw [← hpointers]
    exact hnodup
  | @label passed cursor length h unaltered rest ih =>
    intro raw behind pointers hspelled hnodup
    obtain ⟨later, hraw, hinside, hlater⟩ := hspelled.after_label h
    obtain ⟨raw', behind', pointers', hspelled', hsame, hnodup'⟩ := ih hlater hnodup
    have hbyte := as_answer_getElem?_of_unaltered (unaltered cursor le_rfl (by omega))
    have hlabel : LabelAt (as_answer query) cursor length :=
      ⟨hbyte.trans h.byte, h.nonzero, h.plain⟩
    refine ⟨_, behind', pointers',
      .label hlabel (hinside.trans (le_of_eq as_answer_length.symm)) hspelled', ?_, hnodup'⟩
    rw [hraw, label_at_of_unaltered unaltered, List.map_cons, List.map_cons, hsame]
  | @pointer passed cursor high low h unaltered next rest ih =>
    intro raw behind pointers hspelled hnodup
    obtain ⟨_, later, behind, hpointers, hlater⟩ := hspelled.after_pointer h
    rw [hpointers, List.append_cons] at hnodup
    obtain ⟨raw', behind', pointers', hspelled', hsame, hnodup'⟩ := ih hlater hnodup
    have hpointer : PointerAt (as_answer query) cursor high low :=
      ⟨(as_answer_getElem?_of_unaltered unaltered).trans h.byte, h.marked,
        (as_answer_getElem?_of_unaltered next).trans h.next⟩
    refine ⟨raw', cursor + 2, target high low :: pointers', .pointer hpointer hspelled', hsame, ?_⟩
    rw [List.append_cons]
    exact hnodup'
  | @cut passed cursor high low behind pointers h first last rest =>
    -- the pointer lies in the counts, which are cleared: it is read as the root it led to
    intro raw behind pointers hspelled hnodup
    obtain ⟨_, later, behind, hpointers, hlater⟩ := hspelled.after_pointer h
    obtain ⟨hraw, _, _⟩ := hlater.unique rest
    have hroot := as_answer_getElem?_of_count h.byte first last
    refine ⟨[], cursor + 1, [], .root hroot, by rw [hraw], ?_⟩
    rw [List.append_nil]
    exact hnodup.of_append_left
  | @moved passed high low labels behind pointers labels' pointers' h here there same nodup =>
    -- the pointer at byte 1 leads somewhere else, where the same labels stand
    intro raw behind pointers hspelled hnodup
    obtain ⟨_, there⟩ := patched_iff.mp there
    obtain ⟨_, later, behind, hpointers, hlater⟩ := hspelled.after_pointer h
    obtain ⟨hraw, _, _⟩ := hlater.unique here
    have hpointer : PointerAt (as_answer query) 1 high (answer_flags low) := by
      refine ⟨?_, h.marked, ?_⟩
      · rw [as_answer_getElem?, h.byte]
        rfl
      · rw [as_answer_getElem?, h.next]
        rfl
    refine ⟨labels', 3, _, .pointer hpointer there, ?_, nodup⟩
    rw [hraw]
    exact same

/-- No name of the answer is read from the byte of its code, and none with a label or a root
from its flags. -/
theorem not_flags_of_spelled {cursor behind' : Nat} {byte : UInt8} {raw' : List (List UInt8)}
    {pointers' : List Nat} (h : Spelled (as_answer query) cursor raw' behind' pointers')
    (hbyte : query[cursor]? = some byte) : cursor ≠ 3 ∧ (byte &&& 0xc0 = 0 → cursor ≠ 2) := by
  have hcases := h.not_reserved ((as_answer_getElem? cursor).trans (by rw [hbyte]; rfl))
  constructor
  · intro hthree
    rw [hthree] at hcases
    exact forall_byte (p := fun byte => ¬ (answer_byte 3 byte &&& 0xc0 = 0 ∨
      answer_byte 3 byte &&& 0xc0 = 0xc0)) (by decide +kernel) byte hcases
  · intro hplain htwo
    rw [htwo] at hcases
    exact forall_byte (p := fun byte => byte &&& 0xc0 = 0 → ¬ (answer_byte 2 byte &&& 0xc0 = 0 ∨
      answer_byte 2 byte &&& 0xc0 = 0xc0)) (by decide +kernel) byte hplain hcases

/-- A label that reads alike in both has no altered byte. -/
theorem unaltered_of_label {cursor : Nat} {length : UInt8}
    (hflags : byte_at query 2 &&& 0x80 = 0) (hinside : cursor + 1 + length.toNat ≤ query.length)
    (h : (label_at (as_answer query) cursor length).map to_ascii_lowercase =
      (label_at query cursor length).map to_ascii_lowercase) :
    ∀ i, cursor < i → i < cursor + 1 + length.toNat → Unaltered query i := by
  intro i hfirst hlast
  have hbyte := List.getElem?_eq_getElem (by omega : i < query.length)
  have hread := congrArg (fun label => label[i - (cursor + 1)]?) h
  unfold label_at at hread
  simp only [List.getElem?_map, List.getElem?_take, List.getElem?_drop] at hread
  rw [if_pos (by omega), if_pos (by omega), Nat.add_sub_of_le hfirst, as_answer_getElem?,
    hbyte] at hread
  unfold Unaltered
  rw [byte_at_of_getElem? hbyte]
  refine keeps_of_lowercase ?_ (Option.some.inj hread)
  intro htwo
  subst htwo
  rw [byte_at_of_getElem? hbyte] at hflags
  exact hflags

/-- What is read alike in both is kept. -/
theorem kept_of_spelled (hflags : byte_at query 2 &&& 0x80 = 0) (hcount : u16_at query 4 ≤ 16)
    {cursor behind : Nat} {raw : List (List UInt8)} {pointers : List Nat}
    (h : Spelled query cursor raw behind pointers) :
    ∀ {passed pointers' : List Nat} {raw' : List (List UInt8)} {behind' : Nat},
      Spelled (as_answer query) cursor raw' behind' pointers' →
        raw'.map (·.map to_ascii_lowercase) = raw.map (·.map to_ascii_lowercase) →
          (passed ++ pointers').Nodup → Kept query passed cursor := by
  induction h with
  | @root cursor h =>
    intro passed pointers' raw' behind' hanswer _ _
    obtain ⟨hthree, htwo⟩ := not_flags_of_spelled hanswer h
    refine .root h ⟨htwo (by decide), by omega, ?_⟩
    intro _ _
    exact byte_at_of_getElem? h
  | @label cursor length labels behind pointers h inside rest ih =>
    intro passed pointers' raw' behind' hanswer hsame hnodup
    obtain ⟨hthree, htwo⟩ := not_flags_of_spelled hanswer h.byte
    have hunaltered : Unaltered query cursor := by
      refine ⟨htwo h.plain, by omega, ?_⟩
      intro hfirst hlast
      -- a label that begins among the cleared counts is cut off
      have hroot := as_answer_getElem?_of_count h.byte hfirst hlast
      rw [(hanswer.after_root hroot).1] at hsame
      cases hsame
    have hlabel : LabelAt (as_answer query) cursor length :=
      ⟨(as_answer_getElem?_of_unaltered hunaltered).trans h.byte, h.nonzero, h.plain⟩
    obtain ⟨later, hraw, _, hlater⟩ := hanswer.after_label hlabel
    rw [hraw, List.map_cons, List.map_cons] at hsame
    obtain ⟨hfirst, hrest⟩ := List.cons.inj hsame
    refine .label h ?_ (ih hlater hrest hnodup)
    intro i hi hbefore
    rcases Nat.eq_or_lt_of_le hi with heq | hbehind
    · exact heq ▸ hunaltered
    · exact unaltered_of_label hflags inside hfirst i hbehind hbefore
  | @pointer cursor high low labels behind pointers h rest ih =>
    intro passed pointers' raw' behind' hanswer hsame hnodup
    obtain ⟨hthree, _⟩ := not_flags_of_spelled hanswer h.byte
    have htwo : cursor ≠ 2 := by
      intro htwo
      have hbyte := h.byte
      rw [htwo] at hbyte
      rw [byte_at_of_getElem? hbyte] at hflags
      exact forall_byte (p := fun byte => byte &&& 0x80 = 0 → byte &&& 0xc0 ≠ 0xc0)
        (by decide +kernel) high hflags h.marked
    by_cases hcounts : 6 ≤ cursor ∧ cursor < 12
    · have hroot := as_answer_getElem?_of_count h.byte hcounts.1 hcounts.2
      rw [(hanswer.after_root hroot).1] at hsame
      have hnone : labels = [] := List.map_eq_nil_iff.mp hsame.symm
      rw [hnone] at rest
      exact .cut h hcounts.1 hcounts.2 rest
    · by_cases hone : cursor = 1
      · subst hone
        have hpointer : PointerAt (as_answer query) 1 high (answer_flags low) := by
          refine ⟨?_, h.marked, ?_⟩
          · rw [as_answer_getElem?, h.byte]
            rfl
          · rw [as_answer_getElem?, h.next]
            rfl
        obtain ⟨_, later, behind', hpointers, hlater⟩ := hanswer.after_pointer hpointer
        rw [hpointers] at hnodup
        exact .moved h rest (patched_iff.mpr ⟨_, hlater⟩) hsame hnodup
      · have hfive : cursor ≠ 5 := by
          intro hfive
          have hbyte := h.byte
          rw [hfive] at hbyte
          unfold u16_at at hcount
          rw [byte_at_of_getElem? hbyte] at hcount
          exact forall_byte (p := fun byte => byte.toNat ≤ 16 → byte &&& 0xc0 ≠ 0xc0)
            (by decide +kernel) high (by omega) h.marked
        have hunaltered : Unaltered query cursor := ⟨htwo, by omega, by omega⟩
        have hnext : Unaltered query (cursor + 1) := ⟨by omega, by omega, by omega⟩
        have hpointer : PointerAt (as_answer query) cursor high low :=
          ⟨(as_answer_getElem?_of_unaltered hunaltered).trans h.byte, h.marked,
            (as_answer_getElem?_of_unaltered hnext).trans h.next⟩
        obtain ⟨_, later, behind', hpointers, hlater⟩ := hanswer.after_pointer hpointer
        rw [hpointers, List.append_cons] at hnodup
        exact .pointer h hunaltered hnext (ih hlater hsame hnodup)

/-- A name behind the header goes on where it does in the query. -/
theorem behind_eq {cursor behind : Nat} {raw : List (List UInt8)} {pointers : List Nat}
    (h : Spelled query cursor raw behind pointers) :
    ∀ {raw' : List (List UInt8)} {behind' : Nat} {pointers' : List Nat}, 12 ≤ cursor →
      Spelled (as_answer query) cursor raw' behind' pointers' → behind' = behind := by
  induction h with
  | root h =>
    intro raw' behind' pointers' hbehind hanswer
    rw [← as_answer_getElem?_of_le hbehind] at h
    exact (hanswer.after_root h).2.1
  | @label cursor length labels behind pointers h inside rest ih =>
    intro raw' behind' pointers' hbehind hanswer
    have hlabel : LabelAt (as_answer query) cursor length :=
      ⟨(as_answer_getElem?_of_le hbehind).trans h.byte, h.nonzero, h.plain⟩
    obtain ⟨_, _, _, hlater⟩ := hanswer.after_label hlabel
    exact ih (by omega) hlater
  | @pointer cursor high low labels behind pointers h rest ih =>
    intro raw' behind' pointers' hbehind hanswer
    have hpointer : PointerAt (as_answer query) cursor high low :=
      ⟨(as_answer_getElem?_of_le hbehind).trans h.byte, h.marked,
        (as_answer_getElem?_of_le (by omega)).trans h.next⟩
    exact (hanswer.after_pointer hpointer).1

end Kept

/-! ## §4. Questions under another header. -/

section Questions

variable {query : List UInt8}

/-- A name is read alike exactly where it is kept, and ends where it does in any case. -/
theorem parse_dns_name_kept (hflags : byte_at query 2 &&& 0x80 = 0) (hcount : u16_at query 4 ≤ 16)
    {offset finish : Nat} {labels : List (List UInt8)} (hoffset : 12 ≤ offset)
    (h : parse_dns_name query offset = some (labels, finish)) :
    (parse_dns_name (as_answer query) offset = some (labels, finish) ↔ Kept query [] offset) ∧
      ∀ {labels' finish'}, parse_dns_name (as_answer query) offset = some (labels', finish') →
        finish' = finish := by
  obtain ⟨raw, pointers, hspelled, hnodup, hsize, hlabels⟩ := parse_dns_name_iff.mp h
  refine ⟨⟨?_, ?_⟩, ?_⟩
  · intro hanswer
    obtain ⟨raw', pointers', hspelled', hnodup', _, hlabels'⟩ := parse_dns_name_iff.mp hanswer
    exact kept_of_spelled hflags hcount hspelled hspelled' (hlabels'.symm.trans hlabels) hnodup'
  · intro hkept
    obtain ⟨raw', behind', pointers', hspelled', hsame, hnodup'⟩ :=
      spelled_of_kept hkept hspelled hnodup
    have hbehind := behind_eq hspelled hoffset hspelled'
    rw [hbehind] at hspelled'
    refine parse_dns_name_iff.mpr ⟨raw', pointers', hspelled', hnodup', ?_, ?_⟩
    · rw [← wire_size_lower raw', hsame, wire_size_lower]
      exact hsize
    · rw [hlabels, hsame]
  · intro labels' finish' hanswer
    obtain ⟨raw', pointers', hspelled', _⟩ := parse_dns_name_iff.mp hanswer
    exact behind_eq hspelled hoffset hspelled'

/-- Numbers behind the header are kept. -/
theorem u16_at_as_answer {i : Nat} (h : 12 ≤ i) : u16_at (as_answer query) i = u16_at query i :=
  u16_at_congr (as_answer_getElem?_of_le h) (as_answer_getElem?_of_le (by omega))

/-- A successful step of the question loop. -/
theorem parse_question_list_succ {message : List UInt8} {questions offset : Nat}
    {found : List DnsQuestion} :
    parse_question_list message (questions + 1) offset = some found ↔
      ∃ labels finish rest, parse_dns_name message offset = some (labels, finish) ∧
        finish + 4 ≤ message.length ∧
        parse_question_list message questions (finish + 4) = some rest ∧
        found = ⟨labels, u16_at message finish, u16_at message (finish + 2)⟩ :: rest := by
  rw [parse_question_list]
  constructor
  · intro h
    obtain ⟨⟨labels, finish⟩, hname, h⟩ := Option.bind_eq_some_iff.mp h
    change (if message.length < finish + 4 then none else _) = _ at h
    by_cases hshort : message.length < finish + 4
    · rw [if_pos hshort] at h
      cases h
    · rw [if_neg hshort] at h
      obtain ⟨rest, hrest, h⟩ := Option.bind_eq_some_iff.mp h
      exact ⟨labels, finish, rest, hname, by omega, hrest, (Option.some.inj h).symm⟩
  · intro h
    obtain ⟨labels, finish, rest, hname, hinside, hrest, hfound⟩ := h
    rw [hname]
    show (if message.length < finish + 4 then none else _) = _
    rw [if_neg (by omega), hrest, hfound]
    rfl

/-- The answer repeats the questions exactly where it keeps all their names. -/
theorem question_list_kept (hflags : byte_at query 2 &&& 0x80 = 0) (hcount : u16_at query 4 ≤ 16) :
    ∀ {questions offset : Nat} {found : List DnsQuestion}, 12 ≤ offset →
      parse_question_list query questions offset = some found →
        (parse_question_list (as_answer query) questions offset = some found ↔
          ∀ name ∈ question_list_names query questions offset, Kept query [] name) := by
  intro questions
  induction questions with
  | zero =>
    intro offset found _ h
    exact ⟨fun _ name hmem => (nomatch hmem), fun _ => h⟩
  | succ questions ih =>
    intro offset found hoffset h
    obtain ⟨labels, finish, rest, hname, hinside, hrest, hfound⟩ := parse_question_list_succ.mp h
    obtain ⟨raw, pointers, hspelled, _⟩ := parse_dns_name_iff.mp hname
    have hbehind := hspelled.bounds.1
    obtain ⟨hkept, hfinish⟩ := parse_dns_name_kept hflags hcount hoffset hname
    have hlater := ih (by omega) hrest
    have hnames : question_list_names query (questions + 1) offset =
        offset :: question_list_names query questions (finish + 4) := by
      rw [question_list_names, hname]
    rw [hnames, List.forall_mem_cons, ← hkept, ← hlater, parse_question_list_succ]
    constructor
    · intro hanswer
      obtain ⟨labels', finish', rest', hname', _, hrest', hfound'⟩ := hanswer
      have hsame := hfinish hname'
      subst hsame
      rw [hfound] at hfound'
      obtain ⟨hquestion, hrests⟩ := List.cons.inj hfound'
      have hlabels := (DnsQuestion.mk.inj hquestion).1
      rw [hlabels, hrests]
      exact ⟨hname', hrest'⟩
    · intro hanswer
      obtain ⟨hname', hrest'⟩ := hanswer
      refine ⟨labels, finish, rest, hname', ?_, hrest', ?_⟩
      · rw [as_answer_length]
        exact hinside
      · rw [hfound, u16_at_as_answer (by omega), u16_at_as_answer (by omega)]

/-- Where the answer has questions at all, they end where those of the query do. -/
theorem question_list_end_eq (hflags : byte_at query 2 &&& 0x80 = 0)
    (hcount : u16_at query 4 ≤ 16) :
    ∀ {questions offset : Nat} {found found' : List DnsQuestion}, 12 ≤ offset →
      parse_question_list query questions offset = some found →
        parse_question_list (as_answer query) questions offset = some found' →
          question_list_end (as_answer query) questions offset =
            question_list_end query questions offset := by
  intro questions
  induction questions with
  | zero => intro offset found found' _ _ _; rfl
  | succ questions ih =>
    intro offset found found' hoffset h h'
    obtain ⟨labels, finish, rest, hname, hinside, hrest, _⟩ := parse_question_list_succ.mp h
    obtain ⟨labels', finish', rest', hname', hinside', hrest', _⟩ := parse_question_list_succ.mp h'
    obtain ⟨raw, pointers, hspelled, _⟩ := parse_dns_name_iff.mp hname
    have hbehind := hspelled.bounds.1
    have hsame := (parse_dns_name_kept hflags hcount hoffset hname).2 hname'
    subst hsame
    have hlater := ih (by omega) hrest hrest'
    unfold question_list_end
    rw [hname, hname']
    show (if _ then _ else _) = (if _ then _ else _)
    rw [if_neg (by omega), if_neg (by omega)]
    exact hlater

end Questions

/-! ## §5. Failures that answer. -/

section Answers

variable {query : List UInt8}

/-- What `validate_query` has seen. -/
structure Accepted (query : List UInt8) (found : List DnsQuestion) : Prop where
  long : 12 ≤ query.length
  short : query.length ≤ 65535
  flags : byte_at query 2 &&& 0x80 = 0
  some_question : u16_at query 4 ≠ 0
  few : u16_at query 4 ≤ 16
  questions : parse_question_list query (u16_at query 4) 12 = some found

theorem parse_questions_eq {message : List UInt8} (hlong : 12 ≤ message.length)
    (hsome : u16_at message 4 ≠ 0) (hfew : u16_at message 4 ≤ 16) :
    parse_questions message = parse_question_list message (u16_at message 4) 12 := by
  have hcount : (u16_at message 4 = 0 || MAX_DNS_QUESTIONS < u16_at message 4) = false := by
    rw [Bool.or_eq_false_iff, decide_eq_false_iff_not, decide_eq_false_iff_not]
    exact ⟨hsome, not_lt.mpr hfew⟩
  unfold parse_questions
  rw [if_neg (by omega)]
  show (if (u16_at message 4 = 0 || MAX_DNS_QUESTIONS < u16_at message 4) = true then _ else _) = _
  rw [hcount, if_neg Bool.false_ne_true]

/-- An accepted query has its questions. -/
theorem accepted_of_validate_query (h : validate_query query = .ok ()) :
    ∃ found, Accepted query found := by
  unfold validate_query at h
  simp only [bind_eq_ok, exists_unit, rejectIf_eq_ok, decide_eq_false_iff_not,
    Bool.or_eq_false_iff, bne_eq_false_iff_eq] at h
  obtain ⟨hlong, hshort, hflags, hsome, hfew, hquestions⟩ := h
  have hlong : 12 ≤ query.length := by omega
  have hfew : u16_at query 4 ≤ 16 := not_lt.mp hfew
  rw [Option.isNone_eq_false_iff, Option.isSome_iff_exists,
    parse_questions_eq hlong hsome hfew] at hquestions
  obtain ⟨found, hfound⟩ := hquestions
  exact ⟨found, hlong, not_lt.mp hshort, hflags, hsome, hfew, hfound⟩

theorem two_bytes_as_answer {start : Nat} (h : ∀ i < 2, Unaltered query (start + i)) :
    two_bytes (as_answer query) start = two_bytes query start := by
  unfold two_bytes
  refine List.ext_getElem? ?_
  intro i
  rw [List.getElem?_take, List.getElem?_take]
  by_cases hi : i < 2
  · rw [if_pos hi, if_pos hi, List.getElem?_drop, List.getElem?_drop,
      as_answer_getElem?_of_unaltered (h i hi)]
  · rw [if_neg hi, if_neg hi]

/-- The bytes of the header that hold the transaction id and the number of questions. -/
theorem unaltered_of_lt {i : Nat} (h : i < 2 ∨ (4 ≤ i ∧ i < 6)) : Unaltered query i :=
  ⟨by omega, by omega, by omega⟩

theorem byte_at_as_answer {i : Nat} (h : i < query.length) :
    byte_at (as_answer query) i = answer_byte i (byte_at query i) := by
  have hbyte := List.getElem?_eq_getElem h
  rw [byte_at_of_getElem? hbyte, byte_at_of_getElem? ((as_answer_getElem? i).trans _)]
  rw [hbyte]
  rfl

theorem u16_at_as_answer_count {i : Nat} (hlong : 12 ≤ query.length) (hfirst : 6 ≤ i)
    (hlast : i + 1 < 12) : u16_at (as_answer query) i = 0 := by
  have hcleared : ∀ j, 6 ≤ j → j < 12 → byte_at (as_answer query) j = 0 := by
    intro j hj hend
    exact byte_at_of_getElem? (as_answer_getElem?_of_count
      (List.getElem?_eq_getElem (by omega : j < query.length)) hj hend)
  unfold u16_at
  rw [hcleared i hfirst (by omega), hcleared (i + 1) (by omega) hlast]
  rfl

/-- All the header has for a response is there; what is left are the questions. -/
theorem valid_response_as_answer {found : List DnsQuestion} (h : Accepted query found) :
    valid_response query (as_answer query) = true ↔
      parse_question_list (as_answer query) (u16_at query 4) 12 = some found := by
  have hcount : u16_at (as_answer query) 4 = u16_at query 4 :=
    u16_at_congr (as_answer_getElem?_of_unaltered (unaltered_of_lt (by omega)))
      (as_answer_getElem?_of_unaltered (unaltered_of_lt (by omega)))
  have hlength : (as_answer query).length = query.length := as_answer_length
  have hlong := h.long
  have hflags : byte_at (as_answer query) 2 = answer_flags (byte_at query 2) :=
    byte_at_as_answer (by omega)
  have hresponse := forall_byte (p := fun byte => (answer_flags byte &&& 0x80 != 0) = true)
    (by decide +kernel) (byte_at query 2)
  have hopcode := forall_byte (p := fun byte => answer_flags byte &&& 0x78 = byte &&& 0x78)
    (by decide +kernel) (byte_at query 2)
  have hquestions := parse_questions_eq h.long h.some_question h.few
  have hanswered : parse_questions (as_answer query) =
      parse_question_list (as_answer query) (u16_at query 4) 12 := by
    rw [parse_questions_eq (by omega) (by rw [hcount]; exact h.some_question)
      (by rw [hcount]; exact h.few), hcount]
  have hid := @two_bytes_as_answer query 0 (fun i hi => unaltered_of_lt (by omega))
  have hnumber := @two_bytes_as_answer query 4 (fun i hi => unaltered_of_lt (by omega))
  have hshort : query.length ≤ MAX_DNS_MESSAGE_SIZE := h.short
  unfold valid_response
  rw [hflags, hresponse, hopcode, hid, hnumber, hlength, hquestions, h.questions, hanswered]
  cases parse_question_list (as_answer query) (u16_at query 4) 12 with
  | none => simp
  | some actual =>
    simp only [decide_eq_true hlong, decide_eq_true hshort, decide_true, Bool.and_true,
      Bool.true_and, decide_eq_true_eq, Option.some.injEq]
    exact eq_comm

/-- The sections of the answer end where its questions do. -/
theorem message_end_as_answer (hlong : 12 ≤ query.length) :
    message_end (as_answer query) = question_end (as_answer query) := by
  unfold message_end
  rw [u16_at_as_answer_count hlong (by omega) (by omega),
    u16_at_as_answer_count hlong (by omega) (by omega),
    u16_at_as_answer_count hlong (by omega) (by omega)]
  cases question_end (as_answer query) <;> rfl

/-- A failure answers an accepted query exactly when the query ends with its questions and the
names of these are kept under the header of an answer. -/
theorem servfail_answers_iff (query : List UInt8) (h : validate_query query = .ok ()) :
    Answered query ↔
      question_end query = some query.length ∧
        ∀ name ∈ question_names query, Kept query [] name := by
  obtain ⟨found, haccepted⟩ := accepted_of_validate_query h
  have hlong := haccepted.long
  have hkept := question_list_kept haccepted.flags haccepted.few le_rfl haccepted.questions
  have hvalid := valid_response_as_answer haccepted
  have hcode : byte_at (as_answer query) 3 &&& 0x0f = 2 := by
    rw [byte_at_as_answer (by omega)]
    exact forall_byte (p := fun byte => answer_byte 3 byte &&& 0x0f = 2) (by decide +kernel) _
  have hcount : u16_at (as_answer query) 4 = u16_at query 4 :=
    u16_at_congr (as_answer_getElem?_of_unaltered (unaltered_of_lt (by omega)))
      (as_answer_getElem?_of_unaltered (unaltered_of_lt (by omega)))
  have hends : parse_question_list (as_answer query) (u16_at query 4) 12 = some found →
      message_end (as_answer query) = question_end query := by
    intro hanswer
    rw [message_end_as_answer hlong]
    unfold question_end
    rw [hcount]
    exact question_list_end_eq haccepted.flags haccepted.few le_rfl haccepted.questions hanswer
  unfold Answered question_names
  rw [make_servfail_eq hlong, hvalid, as_answer_length, ← hkept]
  constructor
  · intro hanswered
    obtain ⟨hquestions, _, hend⟩ := hanswered
    rw [hends hquestions] at hend
    exact ⟨hend, hquestions⟩
  · intro hcondition
    obtain ⟨hend, hquestions⟩ := hcondition
    exact ⟨hquestions, hcode, (hends hquestions).trans hend⟩

/-- The recorded query is answered. -/
theorem query_wire_answered : Answered (query_wire 5) := by
  have hvalid : validate_query (query_wire 5) = .ok () := toOption_eq_some (by decide +kernel)
  refine (servfail_answers_iff (query_wire 5) hvalid).mpr ⟨by decide +kernel, ?_⟩
  have hnames : question_names (query_wire 5) = [12] := by decide +kernel
  intro name hmem
  rw [hnames] at hmem
  rw [List.mem_singleton.mp hmem]
  refine @Kept.label _ _ 12 7 ⟨rfl, by decide, rfl⟩ ?_ (.root rfl (unaltered_of_le (by decide)))
  intro i hi _
  exact unaltered_of_le hi

/-- The recorded query with an `OPT` record. -/
def edns_query : List UInt8 :=
  [0, 5, 1, 0, 0, 1, 0, 0, 0, 0, 0, 1, 7, 101, 120, 97, 109, 112, 108, 101, 0, 0, 1, 0,
    1, 0, 0, 41, 16, 0, 0, 0, 0, 0, 0, 0]

/-- A query whose name points to the flags of its header. -/
def flags_query : List UInt8 := [0, 5, 1, 0, 0, 1, 0, 0, 0, 0, 0, 0, 192, 2, 0, 1, 0, 1]

/-- The failure of the first is longer than its counts say; that of the second is no response
to it. -/
theorem edns_query_not_answered :
    (validate_query edns_query = .ok () ∧
      message_end (make_servfail edns_query) = some 25 ∧
      (make_servfail edns_query).length = 36 ∧ ¬ Answered edns_query) ∧
    validate_query flags_query = .ok () ∧
      valid_response flags_query (make_servfail flags_query) = false ∧ ¬ Answered flags_query := by
  have hend : message_end (make_servfail edns_query) = some 25 := by decide +kernel
  have hlength : (make_servfail edns_query).length = 36 := by decide +kernel
  have hinvalid : valid_response flags_query (make_servfail flags_query) = false := by
    decide +kernel
  refine ⟨⟨toOption_eq_some (by decide +kernel), hend, hlength, ?_⟩,
    toOption_eq_some (by decide +kernel), hinvalid, ?_⟩
  · intro hanswered
    have hsame := hanswered.2.2
    rw [hend, hlength] at hsame
    cases hsame
  · intro hanswered
    have hvalid := hanswered.1
    rw [hinvalid] at hvalid
    cases hvalid

end Answers

end ResolverIdentity.Wrapper
