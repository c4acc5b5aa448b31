/-
  ResolverIdentity.V1.MerkleProofs: proofs that a leaf is under a root.

  `build_merkle_proof` and `verify_merkle_proof` of `crypto/merkle.py`.  A proof is any
  dictionary with a list of siblings; each of them is any text, on either side.

  Main results:
    * `build_verifies`: the siblings of a built proof lead to the root;
    * `digest_of_path`: what leads to a digest of the tree is a digest of the tree;
    * `merkle_proofs_exact`: a built proof verifies, and only a leaf of the list does.
-/
import Mathlib.Data.Nat.Bitwise
import ResolverIdentity.V1.Merkle

namespace ResolverIdentity.V1

open Library Merkle Sync

/-! ## §1. Proofs. -/

/-- One step of a proof. -/
structure Sibling where
  position : Option String
  hash : String

/-- The dictionary of a proof; an absent list of siblings is empty. -/
structure MerkleProof where
  leaf_hash : Option String
  siblings : List Sibling
  root : Option String

/-- `index ^ 1`, or the index itself where there is no such node. -/
def sibling_index (index length : Nat) : Nat :=
  if index ^^^ 1 ≥ length then index else index ^^^ 1

section Proofs

variable (P : Platform) (C : Casing)

/-- The loop of `build_merkle_proof`: the siblings, and the level it ends with. -/
def build_siblings : Nat → Nat → List String → Option (List Sibling × List String)
  | 0, _, level => some ([], level)
  | fuel + 1, index, level =>
    if level.length ≤ 1 then some ([], level)
    else do
      let hash ← level[sibling_index index level.length]?
      let next_level ← merkle_level P level
      let (proof, top) ← build_siblings fuel (index / 2) next_level
      let position := if sibling_index index level.length < index then "left" else "right"
      some (⟨some position, hash⟩ :: proof, top)

/-- `none` stands for the `IndexError`, and for a `ValueError` of `bytes.fromhex`. -/
def build_merkle_proof (leaves : List String) (target_index : Int) : Option MerkleProof :=
  if target_index < 0 ∨ target_index ≥ leaves.length then none
  else do
    let leaf ← leaves[target_index.toNat]?
    let (siblings, level) ←
      build_siblings P leaves.length target_index.toNat (leaves.map C.lower)
    some ⟨some (C.lower leaf), siblings, level.head?.or (merkle_root P C [])⟩

/-- `current` after one sibling. -/
def verify_step (current : String) (item : Sibling) : Option String :=
  if item.position = some "left" then merkle_parent P (C.lower item.hash) current
  else merkle_parent P current (C.lower item.hash)

/-- The hashes up to the root. -/
def verify_path : String → List Sibling → Option String
  | current, [] => some current
  | current, item :: rest => do
    let next ← verify_step P C current item
    verify_path next rest

/-- `none` stands for a `ValueError` of `bytes.fromhex`. -/
def verify_merkle_proof (leaf_hash : String) (proof : MerkleProof) (expected_root : String) :
    Option Bool := do
  let current ← verify_path P C (C.lower leaf_hash) proof.siblings
  some (C.lower current == C.lower expected_root &&
    C.lower (proof.root.getD expected_root) == C.lower expected_root)

end Proofs

/-! ## §2. What is hashed. -/

/-- The arguments of `merkle_leaf`. -/
structure LeafInput where
  resolver_id_key : String
  object_hash : String
  object_version : Int
  status : String

section Hashed

variable (P : Platform) (C : Casing)

/-- What is hashed. -/
def LeafInput.text (input : LeafInput) : String :=
  "|".intercalate ["resolver-leaf-v1", C.lower input.resolver_id_key, C.lower input.object_hash,
    toString input.object_version, C.upper input.status]

/-- Its hash. -/
def LeafInput.leaf (input : LeafInput) : String :=
  merkle_leaf P C input.resolver_id_key input.object_hash input.object_version input.status

/-- The bytes hashed for one sibling. -/
def step_payload (current : String) (item : Sibling) : Option (List UInt8) := do
  let sibling ← hex_to_bytes (C.lower item.hash)
  let current ← hex_to_bytes current
  some (as_bytes "node-v1" ++
    if item.position = some "left" then sibling ++ current else current ++ sibling)

/-- The bytes hashed along the siblings of a proof. -/
def path_hashed : String → List Sibling → List (List UInt8)
  | _, [] => []
  | current, item :: rest =>
    match step_payload C current item with
    | none => []
    | some payload => payload :: path_hashed (P.sha256_hex payload) rest

/-- The bytes hashed for the root of a list of leaves. -/
def root_hashed (inputs : List LeafInput) : List (List UInt8) :=
  as_bytes "empty-root-v1" ::
    (trees (inputs.map (LeafInput.text C))).flatMap (fun t => t.subtrees.map (tree_payload P))

/-- The bytes hashed to verify a proof. -/
def proof_hashed (input : LeafInput) (proof : MerkleProof) : List (List UInt8) :=
  as_bytes (input.text C) :: path_hashed P C (input.leaf P C) proof.siblings

end Hashed

section Verified

variable {P : Platform} {C : Casing}

theorem verify_step_eq (current : String) (item : Sibling) :
    verify_step P C current item = (step_payload C current item).map P.sha256_hex := by
  unfold verify_step step_payload merkle_parent
  by_cases hleft : item.position = some "left"
  · simp only [if_pos hleft]
    cases hex_to_bytes (C.lower item.hash) with
    | none => rfl
    | some sibling =>
      cases hex_to_bytes current with
      | none => rfl
      | some bytes => simp
  · simp only [if_neg hleft]
    cases hex_to_bytes (C.lower item.hash) with
    | none =>
      cases hex_to_bytes current <;> rfl
    | some sibling =>
      cases hex_to_bytes current with
      | none => rfl
      | some bytes => simp

theorem LeafInput.leaf_eq (input : LeafInput) :
    input.leaf P C = P.sha256_hex (as_bytes (input.text C)) := rfl

/-- A leaf's text begins as no other hashed bytes do. -/
theorem LeafInput.text_head (input : LeafInput) :
    (as_bytes (input.text C)).head? = some 114 := by
  have htext : input.text C = "resolver-leaf-v1" ++ ("|" ++ C.lower input.resolver_id_key ++ "|" ++
      C.lower input.object_hash ++ "|" ++ toString input.object_version ++ "|" ++
        C.upper input.status) := by
    unfold LeafInput.text
    show "resolver-leaf-v1" ++ "|" ++ _ ++ "|" ++ _ ++ "|" ++ _ ++ "|" ++ _ = _
    simp only [String.append_assoc]
  rw [htext, as_bytes_append]
  rfl

end Verified

/-! ## §3. Built proofs. -/

section Built

variable {P : Platform} {C : Casing} (hdigest : ∀ bytes, IsDigest (P.sha256_hex bytes))

theorem merkle_parent_digest {left right : String} (hleft : IsDigest left)
    (hright : IsDigest right) : merkle_parent P left right = some (parent_digest P left right) := by
  unfold merkle_parent
  rw [hex_to_bytes_digest hleft, hex_to_bytes_digest hright]
  rfl

/-- The node of an index, with its sibling, makes the node above it. -/
theorem sibling_parent {level : List String} {index : Nat} {current : String}
    (hcurrent : level[index]? = some current) :
    ∃ sibling, level[sibling_index index level.length]? = some sibling ∧
      (parents (parent_digest P) level)[index / 2]? = some
        (if sibling_index index level.length < index then parent_digest P sibling current
          else parent_digest P current sibling) := by
  obtain ⟨hbound, _⟩ := List.getElem?_eq_some_iff.mp hcurrent
  rw [getElem?_parents]
  unfold sibling_index
  rcases Nat.even_or_odd index with heven | hodd
  · have htwice : 2 * (index / 2) = index := Nat.two_mul_div_two_of_even heven
    rw [Nat.xor_one_of_even heven, htwice, hcurrent]
    by_cases hlast : index + 1 ≥ level.length
    · -- an odd last node is its own sibling
      have hnone : level[index + 1]? = none := List.getElem?_eq_none hlast
      rw [if_pos hlast]
      refine ⟨current, hcurrent, ?_⟩
      rw [if_neg (lt_irrefl index), hnone]
      rfl
    · have hnext : level[index + 1]? = some level[index + 1] :=
        List.getElem?_eq_getElem (by omega)
      rw [if_neg hlast]
      refine ⟨_, hnext, ?_⟩
      rw [if_neg (by omega), hnext]
      rfl
  · have htwice : 2 * (index / 2) + 1 = index := Nat.two_mul_div_two_add_one_of_odd hodd
    have hbefore : 2 * (index / 2) = index - 1 := by omega
    have hprevious : level[index - 1]? = some level[index - 1] :=
      List.getElem?_eq_getElem (by omega)
    rw [Nat.xor_one_of_odd hodd, if_neg (by omega), htwice, hbefore, hcurrent]
    refine ⟨_, hprevious, ?_⟩
    rw [if_pos (by omega), hprevious]
    rfl

include hdigest

/-- The siblings of a node lead to the top. -/
theorem build_verifies : ∀ (fuel : Nat) {level : List String} {index : Nat} {current : String},
    (∀ digest ∈ level, IsDigest digest) → level[index]? = some current →
      ∃ siblings, build_siblings P fuel index level =
          some (siblings, climb (parent_digest P) fuel level) ∧
        ∀ root, climb (parent_digest P) fuel level = [root] →
          verify_path P C current siblings = some root := by
  intro fuel
  have hsingle : ∀ {level : List String} {index : Nat} {current root : String},
      level[index]? = some current → level = [root] → current = root := by
    intro level index current root hcurrent heq
    rw [heq] at hcurrent
    exact List.mem_singleton.mp (List.mem_of_getElem? hcurrent)
  induction fuel with
  | zero =>
    intro level index current _ hcurrent
    refine ⟨[], rfl, ?_⟩
    intro root hroot
    rw [hsingle hcurrent hroot]
    rfl
  | succ fuel ih =>
    intro level index current hlevel hcurrent
    unfold build_siblings climb
    by_cases hone : level.length ≤ 1
    · rw [if_pos hone, if_pos hone]
      refine ⟨[], rfl, ?_⟩
      intro root hroot
      rw [hsingle hcurrent hroot]
      rfl
    · rw [if_neg hone, if_neg hone]
      -- one level up, the parent stands at half the index
      obtain ⟨sibling, hsibling, hparent⟩ := @sibling_parent P _ _ _ hcurrent
      obtain ⟨siblings, hbuild, hverify⟩ := ih (digest_of_parents hdigest) hparent
      have hdigest_current := hlevel current (List.mem_of_getElem? hcurrent)
      have hdigest_sibling := hlevel sibling (List.mem_of_getElem? hsibling)
      rw [hsibling, merkle_level_eq hlevel]
      simp only [Option.bind_eq_bind, Option.bind_some, hbuild]
      refine ⟨_, rfl, ?_⟩
      intro root hroot
      have hrest := hverify root hroot
      unfold verify_path verify_step
      rw [lower_digest hdigest_sibling]
      -- the side the sibling is on
      by_cases hbefore : sibling_index index level.length < index
      · simp only [if_pos hbefore] at hrest ⊢
        rw [merkle_parent_digest hdigest_sibling hdigest_current]
        exact hrest
      · have hright : (some "right" : Option String) ≠ some "left" := by simp
        simp only [if_neg hbefore, if_neg hright] at hrest ⊢
        rw [merkle_parent_digest hdigest_current hdigest_sibling]
        exact hrest

theorem leaf_digests (inputs : List LeafInput) :
    ∀ digest ∈ inputs.map (LeafInput.leaf P C), IsDigest digest := by
  intro digest hmem
  obtain ⟨input, _, heq⟩ := List.mem_map.mp hmem
  rw [← heq]
  exact hdigest _

theorem lower_leaves (inputs : List LeafInput) :
    (inputs.map (LeafInput.leaf P C)).map C.lower = inputs.map (LeafInput.leaf P C) :=
  (List.map_congr_left (fun digest hmem =>
    lower_digest (leaf_digests hdigest inputs digest hmem))).trans (List.map_id _)

/-- The root of leaves is the digest of their tree. -/
theorem merkle_root_tree {inputs : List LeafInput} (h : inputs ≠ []) :
    ∃ t, trees (inputs.map (LeafInput.text C)) = [t] ∧
      climb (parent_digest P) inputs.length (inputs.map (LeafInput.leaf P C)) =
        [tree_digest P t] ∧
      merkle_root P C (inputs.map (LeafInput.leaf P C)) = some (tree_digest P t) := by
  have hsome : inputs.map (LeafInput.text C) ≠ [] := fun hnil => h (List.map_eq_nil_iff.mp hnil)
  obtain ⟨t, ht⟩ := trees_eq_singleton hsome
  have hleaves : inputs.map (LeafInput.leaf P C) =
      (inputs.map (LeafInput.text C)).map (fun text => P.sha256_hex (as_bytes text)) := by
    rw [List.map_map]
    rfl
  have hclimb : climb (parent_digest P) inputs.length (inputs.map (LeafInput.leaf P C)) =
      [tree_digest P t] := by
    have hlength : (inputs.map (LeafInput.text C)).length = inputs.length := List.length_map _
    rw [hleaves, climb_digests, ← hlength]
    show (trees (inputs.map (LeafInput.text C))).map _ = _
    rw [ht]
    rfl
  refine ⟨t, ht, hclimb, ?_⟩
  have hnonempty : (inputs.map (LeafInput.leaf P C)).isEmpty = false := by
    rw [List.isEmpty_map]
    exact List.isEmpty_eq_false_iff.mpr h
  unfold merkle_root
  rw [hnonempty, lower_leaves hdigest, List.length_map,
    merkle_levels_eq hdigest _ (leaf_digests hdigest inputs), hclimb]
  rfl

/-- A proof that was built verifies. -/
theorem built_proof_verifies {inputs : List LeafInput} {index : Nat} {input : LeafInput}
    (hinput : inputs[index]? = some input) :
    ∃ proof root, build_merkle_proof P C (inputs.map (LeafInput.leaf P C)) index = some proof ∧
      merkle_root P C (inputs.map (LeafInput.leaf P C)) = some root ∧
        verify_merkle_proof P C (input.leaf P C) proof root = some true := by
  obtain ⟨hbound, _⟩ := List.getElem?_eq_some_iff.mp hinput
  have hsome : inputs ≠ [] := List.ne_nil_of_length_pos (by omega)
  obtain ⟨t, _, hclimb, hroot⟩ := merkle_root_tree (C := C) hdigest hsome
  have hleaf : (inputs.map (LeafInput.leaf P C))[index]? = some (input.leaf P C) := by
    rw [List.getElem?_map, hinput]
    rfl
  obtain ⟨siblings, hbuild, hverify⟩ := build_verifies (C := C) hdigest inputs.length
    (leaf_digests hdigest inputs) hleaf
  have hlower := lower_digest (C := C) (hdigest (as_bytes (input.text C)))
  rw [hclimb] at hbuild
  refine ⟨⟨some (C.lower (input.leaf P C)), siblings, some (tree_digest P t)⟩, tree_digest P t, ?_,
    hroot, ?_⟩
  · unfold build_merkle_proof
    rw [if_neg (by rw [List.length_map]; omega), lower_leaves hdigest, List.length_map]
    simp only [Int.toNat_natCast, hleaf, hbuild]
    rfl
  · unfold verify_merkle_proof
    rw [LeafInput.leaf_eq, hlower, ← LeafInput.leaf_eq, hverify _ hclimb]
    simp

end Built

/-! ## §4. Verified proofs. -/

section Sound

variable {P : Platform} {C : Casing} {inputs : List LeafInput}

theorem mem_root_hashed {t part : Merkle.Tree String}
    (ht : trees (inputs.map (LeafInput.text C)) = [t]) (hpart : part ∈ t.subtrees) :
    tree_payload P part ∈ root_hashed P C inputs := by
  unfold root_hashed
  rw [ht]
  exact List.mem_cons_of_mem _ (List.mem_flatMap.mpr
    ⟨t, List.mem_singleton_self t, List.mem_map_of_mem hpart⟩)

/-- What is hashed for a root is the tag of no leaves, a leaf, or a node over two others. -/
theorem root_hashed_cases {payload : List UInt8} (h : payload ∈ root_hashed P C inputs) :
    payload = as_bytes "empty-root-v1" ∨
      (∃ input ∈ inputs, payload = as_bytes (input.text C)) ∨
      ∃ left right, payload = parent_payload (tree_digest P left) (tree_digest P right) ∧
        tree_payload P left ∈ root_hashed P C inputs ∧
          tree_payload P right ∈ root_hashed P C inputs := by
  rcases List.mem_cons.mp h with hempty | hpart
  · exact Or.inl hempty
  · right
    obtain ⟨t, ht, hmem⟩ := List.mem_flatMap.mp hpart
    obtain ⟨part, hpart, heq⟩ := List.mem_map.mp hmem
    have hsome : inputs.map (LeafInput.text C) ≠ [] := by
      intro hnil
      rw [hnil] at ht
      cases ht
    obtain ⟨top, htop⟩ := trees_eq_singleton hsome
    rw [htop, List.mem_singleton] at ht
    rw [ht] at hpart
    cases part with
    | leaf text =>
      obtain ⟨input, hinput, htext⟩ := List.mem_map.mp (mem_of_leaf_trees htop hpart)
      exact Or.inl ⟨input, hinput, by rw [← heq, htext]; rfl⟩
    | node left right =>
      obtain ⟨hleft, hright⟩ := Merkle.Tree.mem_subtrees_of_node hpart
      exact Or.inr ⟨left, right, heq.symm, mem_root_hashed htop hleft,
        mem_root_hashed htop hright⟩

/-- The bytes hashed for a sibling begin as those of a node. -/
theorem step_payload_eq {current : String} {item : Sibling} {payload : List UInt8}
    (hcurrent : IsDigest current) (h : step_payload C current item = some payload) :
    ∃ sibling, payload = as_bytes "node-v1" ++ (sibling ++ digest_bytes current) ∨
      payload = as_bytes "node-v1" ++ (digest_bytes current ++ sibling) := by
  unfold step_payload at h
  rw [hex_to_bytes_digest hcurrent] at h
  obtain ⟨sibling, _, h⟩ := Option.bind_eq_some_iff.mp h
  refine ⟨sibling, ?_⟩
  have h := Option.some.inj h
  by_cases hleft : item.position = some "left"
  · rw [if_pos hleft] at h
    exact Or.inl h.symm
  · rw [if_neg hleft] at h
    exact Or.inr h.symm

section Digests

variable (hdigest : ∀ bytes, IsDigest (P.sha256_hex bytes))

include hdigest

theorem tree_digest_digest (t : Merkle.Tree String) : IsDigest (tree_digest P t) := by
  rw [tree_digest_eq]
  exact hdigest _

/-- A node of the tree over a digest and a sibling is over a digest of the tree. -/
theorem digest_below {current : String} {payload : List UInt8} {item : Sibling}
    (hcurrent : IsDigest current) (hstep : step_payload C current item = some payload)
    (hmem : payload ∈ root_hashed P C inputs) :
    ∃ below ∈ root_hashed P C inputs, current = P.sha256_hex below := by
  obtain ⟨sibling, hpayload⟩ := step_payload_eq hcurrent hstep
  have hhead : payload.head? = some 110 := by
    rcases hpayload with heq | heq
    · rw [heq]
      rfl
    · rw [heq]
      rfl
  rcases root_hashed_cases hmem with
    hempty | ⟨input, _, hleaf⟩ | ⟨left, right, hnode, hleft, hright⟩
  · rw [hempty] at hhead
    cases hhead
  · rw [hleaf, LeafInput.text_head] at hhead
    cases hhead
  · have hleft_digest := tree_digest_digest hdigest left
    have hright_digest := tree_digest_digest hdigest right
    unfold parent_payload at hnode
    rw [List.append_assoc] at hnode
    rcases hpayload with heq | heq
    · -- the digest is on the right, and as wide as the right child
      have hbytes := List.append_cancel_left (heq.symm.trans hnode)
      obtain ⟨_, hsame⟩ := List.append_inj' hbytes (hcurrent.length.trans hright_digest.length.symm)
      refine ⟨_, hright, ?_⟩
      rw [hcurrent.text_eq hright_digest hsame, tree_digest_eq]
    · have hbytes := List.append_cancel_left (heq.symm.trans hnode)
      obtain ⟨hsame, _⟩ := List.append_inj hbytes (hcurrent.length.trans hleft_digest.length.symm)
      refine ⟨_, hleft, ?_⟩
      rw [hcurrent.text_eq hleft_digest hsame, tree_digest_eq]

/-- What siblings lead from to a digest of the tree is a digest of the tree. -/
theorem digest_of_path {siblings : List Sibling} : ∀ {current root : String}, IsDigest current →
    verify_path P C current siblings = some root →
      (∀ a ∈ root_hashed P C inputs, ∀ b ∈ path_hashed P C current siblings,
        P.sha256_hex a = P.sha256_hex b → a = b) →
      (∃ payload ∈ root_hashed P C inputs, root = P.sha256_hex payload) →
        IsDigest root ∧ ∃ payload ∈ root_hashed P C inputs, current = P.sha256_hex payload := by
  induction siblings with
  | nil =>
    intro current root hcurrent hpath _ hroot
    rw [← Option.some.inj hpath] at hroot ⊢
    exact ⟨hcurrent, hroot⟩
  | cons item rest ih =>
    intro current root hcurrent hpath hcollision hroot
    unfold verify_path at hpath
    rw [verify_step_eq] at hpath
    obtain ⟨next, hnext, hpath⟩ := Option.bind_eq_some_iff.mp hpath
    obtain ⟨payload, hstep, heq⟩ := Option.map_eq_some_iff.mp hnext
    rw [← heq] at hpath
    have hhashed : path_hashed P C current (item :: rest) =
        payload :: path_hashed P C (P.sha256_hex payload) rest := by
      rw [path_hashed, hstep]
    rw [hhashed] at hcollision
    obtain ⟨hroot_digest, above, habove, hsame⟩ := ih (hdigest payload) hpath
      (fun a ha b hb => hcollision a ha b (List.mem_cons_of_mem _ hb)) hroot
    have hpayload := hcollision above habove payload List.mem_cons_self hsame.symm
    rw [hpayload] at habove
    exact ⟨hroot_digest, digest_below hdigest hcurrent hstep habove⟩

theorem path_digest {siblings : List Sibling} : ∀ {current last : String}, IsDigest current →
    verify_path P C current siblings = some last → IsDigest last := by
  induction siblings with
  | nil =>
    intro current last hcurrent hpath
    rw [← Option.some.inj hpath]
    exact hcurrent
  | cons item rest ih =>
    intro current last hcurrent hpath
    unfold verify_path at hpath
    rw [verify_step_eq] at hpath
    obtain ⟨next, hnext, hpath⟩ := Option.bind_eq_some_iff.mp hpath
    obtain ⟨payload, _, heq⟩ := Option.map_eq_some_iff.mp hnext
    rw [← heq] at hpath
    exact ih (hdigest payload) hpath

/-- The root is the digest of what was hashed for it. -/
theorem root_hashed_root {root : String}
    (hroot : merkle_root P C (inputs.map (LeafInput.leaf P C)) = some root) :
    ∃ payload ∈ root_hashed P C inputs, root = P.sha256_hex payload := by
  cases inputs with
  | nil => exact ⟨_, List.mem_cons_self, (Option.some.inj hroot).symm⟩
  | cons input rest =>
    obtain ⟨t, ht, _, htree⟩ := merkle_root_tree (C := C) hdigest (List.cons_ne_nil input rest)
    rw [htree] at hroot
    refine ⟨_, mem_root_hashed ht (Merkle.Tree.mem_subtrees_self t), ?_⟩
    rw [← Option.some.inj hroot, tree_digest_eq]

/-- Only a leaf of the list has a proof that verifies. -/
theorem leaf_of_verified {input : LeafInput} {proof : MerkleProof} {root : String}
    (hroot : merkle_root P C (inputs.map (LeafInput.leaf P C)) = some root)
    (hcollision : ∀ a ∈ root_hashed P C inputs, ∀ b ∈ proof_hashed P C input proof,
      P.sha256_hex a = P.sha256_hex b → a = b)
    (hverify : verify_merkle_proof P C (input.leaf P C) proof root = some true) :
    input.leaf P C ∈ inputs.map (LeafInput.leaf P C) := by
  have hleaf : IsDigest (input.leaf P C) := hdigest _
  obtain ⟨payload₀, hpayload₀, hroot_eq⟩ := root_hashed_root hdigest hroot
  unfold verify_merkle_proof at hverify
  rw [lower_digest hleaf] at hverify
  obtain ⟨last, hpath, hverify⟩ := Option.bind_eq_some_iff.mp hverify
  have hlast := path_digest hdigest hleaf hpath
  have hsame : last = root := by
    have hboth := Option.some.inj hverify
    rw [Bool.and_eq_true, beq_iff_eq, lower_digest hlast] at hboth
    rw [hboth.1, hroot_eq, lower_digest (hdigest payload₀)]
  obtain ⟨_, payload, hpayload, heq⟩ := digest_of_path hdigest hleaf hpath
    (fun a ha b hb => hcollision a ha b (List.mem_cons_of_mem _ hb))
    ⟨payload₀, hpayload₀, hsame.trans hroot_eq⟩
  have htext := hcollision payload hpayload _ List.mem_cons_self (heq.symm.trans input.leaf_eq)
  have hhead := input.text_head (C := C)
  rw [htext] at hpayload
  rcases root_hashed_cases hpayload with hempty | ⟨member, hmember, hmember_eq⟩ |
    ⟨left, right, hnode, _⟩
  · rw [hempty] at hhead
    cases hhead
  · refine List.mem_map.mpr ⟨member, hmember, ?_⟩
    rw [LeafInput.leaf_eq, LeafInput.leaf_eq, hmember_eq]
  · rw [hnode] at hhead
    cases hhead

/-- **Proofs are complete and sound**: one that was built verifies, and whatever verifies is
of a leaf of the list. -/
theorem merkle_proofs_exact (C : Casing) (inputs : List LeafInput) :
    (∀ (index : Nat) input, inputs[index]? = some input →
      ∃ proof root, build_merkle_proof P C (inputs.map (LeafInput.leaf P C)) index = some proof ∧
        merkle_root P C (inputs.map (LeafInput.leaf P C)) = some root ∧
          verify_merkle_proof P C (input.leaf P C) proof root = some true) ∧
    ∀ input proof root, merkle_root P C (inputs.map (LeafInput.leaf P C)) = some root →
      (∀ a ∈ root_hashed P C inputs, ∀ b ∈ proof_hashed P C input proof,
        P.sha256_hex a = P.sha256_hex b → a = b) →
      verify_merkle_proof P C (input.leaf P C) proof root = some true →
        input.leaf P C ∈ inputs.map (LeafInput.leaf P C) := by
  constructor
  · intro index input hinput
    exact built_proof_verifies hdigest hinput
  · intro input proof root hroot hcollision hverify
    exact leaf_of_verified hdigest hroot hcollision hverify

end Digests

end Sound

/-! ## §6. A recorded proof. -/

open Agent

/-- The leaves of that snapshot. -/
def lab_leaves : List LeafInput :=
  (root_snapshot "active").entries.map (fun entry =>
    ⟨entry.resolver_id_key, entry.object_hash, entry.object_version, entry.status⟩)

/-- The proof of the first leaf: the second is its sibling on the right. -/
def lab_proof : MerkleProof where
  leaf_hash := some "0xab099bc78310ae904fb9907825160798208da0db78fc67dd739cecd678dce78c"
  siblings := [
    ⟨some "right", "0x85ce0ffa1611236f0535f62118659e6a789b4444f9ad2200f31902494e1be38d"⟩]
  root := some (root_snapshot "active").state_root

/-- The second leaf has a proof, and what verifies for the first is of a leaf of the list. -/
theorem lab_proofs_exact :
    (∃ proof root, build_merkle_proof root_platform ascii_casing
        (lab_leaves.map (LeafInput.leaf root_platform ascii_casing)) 1 = some proof ∧
      merkle_root root_platform ascii_casing
        (lab_leaves.map (LeafInput.leaf root_platform ascii_casing)) = some root ∧
      verify_merkle_proof root_platform ascii_casing
        (lab_leaves[1].leaf root_platform ascii_casing) proof root = some true) ∧
    lab_leaves[0].leaf root_platform ascii_casing ∈
      lab_leaves.map (LeafInput.leaf root_platform ascii_casing) := by
  have hexact := merkle_proofs_exact root_platform_digest ascii_casing lab_leaves
  -- one evaluation, so that no digest is read twice
  have hrecorded :
      merkle_root root_platform ascii_casing
          (lab_leaves.map (LeafInput.leaf root_platform ascii_casing)) =
        some (root_snapshot "active").state_root ∧
      (∀ a ∈ root_hashed root_platform ascii_casing lab_leaves,
        ∀ b ∈ proof_hashed root_platform ascii_casing lab_leaves[0] lab_proof,
          root_platform.sha256_hex a = root_platform.sha256_hex b → a = b) ∧
      verify_merkle_proof root_platform ascii_casing
        (lab_leaves[0].leaf root_platform ascii_casing) lab_proof
          (root_snapshot "active").state_root = some true := by
    decide +kernel
  obtain ⟨hroot, hcollision, hverify⟩ := hrecorded
  exact ⟨hexact.1 1 lab_leaves[1] rfl, hexact.2 lab_leaves[0] lab_proof _ hroot hcollision hverify⟩

end ResolverIdentity.V1
