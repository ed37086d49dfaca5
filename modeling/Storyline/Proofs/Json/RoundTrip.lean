-- SUMMARY: A value that fits its shape is read back from the JSON text it is written as.
import Storyline.Json.Reader
import Storyline.Proofs.Data.Value
import Storyline.Proofs.Json.Token

/-!
# Reading back what was written

A value is written as a tree (`treeOf`), and the text of a value has the tokens of its tree (`spells_write`). The
tokens of any tree build the tree again (`builds`), and the tree of a value fits the shapes that the value fits
(`fit?_treeOf`).

An optional value is written without a mark of its own. So an optional directly in an optional would be lost, as
`null` may stand for either of the two. All other values are kept.
-/

namespace Storyline.Json

open Data Text
open Ron (Fits FitsFields)

/-! ## Tokens of a tree -/

mutual

/-- The tokens of a tree. -/
def tokensOf : Json → List Token
  | .null => [.null]
  | .bool b => [.bool b]
  | .number n => [.number n]
  | .string s => [.string s]
  | .array items => enclosed .openArray .closeArray (itemTokens items)
  | .object members => enclosed .openObject .closeObject (memberTokens members)

/-- The tokens of the items of an array. -/
def itemTokens : List Json → List (List Token)
  | [] => []
  | item :: rest => tokensOf item :: itemTokens rest

/-- The tokens of the members of an object. -/
def memberTokens : List (Option String × Json) → List (List Token)
  | [] => []
  | (key, value) :: rest => (.string key :: .colon :: tokensOf value) :: memberTokens rest

end

/-- Where a value is expected, the tokens of the tree are taken as the tree. -/
def Builds (tree : Json) : Prop :=
  ∀ stack rest, build .value stack (tokensOf tree ++ rest) = build (.after tree) stack rest

/-- No tree begins with the end of an array. -/
theorem build_firstItem (tree : Json) (stack : List Frame) (rest : List Token) :
    build .firstItem stack (tokensOf tree ++ rest) = build .value stack (tokensOf tree ++ rest) := by
  cases tree <;> simp [tokensOf, enclosed, build]

theorem intercalate_cons {α : Type} (separator item : List α) (items : List (List α)) :
    separator.intercalate (item :: items) = item ++ items.flatMap (separator ++ ·) := by
  induction items generalizing item with
  | nil => rw [List.intercalate_singleton, List.flatMap_nil, List.append_nil]
  | cons next items ih => rw [List.intercalate_cons_cons, ih, List.flatMap_cons, List.append_assoc, List.append_assoc]

theorem build_laterItems {items : List Json} (h : ∀ item ∈ items, Builds item) (done : Json) (front : List Json)
    (stack : List Frame) (rest : List Token) :
    build (.after done) (.array front :: stack)
        ((itemTokens items).flatMap ([Token.comma] ++ ·) ++ .closeArray :: rest) =
      build (.after (.array (front.reverse ++ done :: items))) stack rest := by
  induction items generalizing done front with
  | nil => rw [itemTokens, List.flatMap_nil, List.nil_append, build, List.reverse_cons]
  | cons item items ih =>
    obtain ⟨hitem, hitems⟩ := List.forall_mem_cons.1 h
    rw [itemTokens, List.flatMap_cons, List.append_assoc, List.append_assoc, List.singleton_append, build, hitem,
      ih hitems, List.reverse_cons, List.append_assoc, List.singleton_append]

theorem build_laterMembers {members : List (Option String × Json)} (h : ∀ member ∈ members, Builds member.2)
    (done : Json) (key : Option String) (front : List (Option String × Json)) (stack : List Frame)
    (rest : List Token) :
    build (.after done) (.member front key :: stack)
        ((memberTokens members).flatMap ([Token.comma] ++ ·) ++ .closeObject :: rest) =
      build (.after (.object (front.reverse ++ (key, done) :: members))) stack rest := by
  induction members generalizing done key front with
  | nil => rw [memberTokens, List.flatMap_nil, List.nil_append, build, List.reverse_cons]
  | cons member members ih =>
    obtain ⟨hmember, hmembers⟩ := List.forall_mem_cons.1 h
    rw [memberTokens, List.flatMap_cons, List.append_assoc, List.append_assoc, List.singleton_append,
      List.cons_append, List.cons_append, build, build, build, hmember, ih hmembers, List.reverse_cons,
      List.append_assoc, List.singleton_append]

theorem builds_array {items : List Json} (h : ∀ item ∈ items, Builds item) : Builds (.array items) := by
  intro stack rest
  rw [tokensOf, enclosed, List.cons_append, List.append_assoc, build, build.buildValue]
  cases items with
  | nil => rw [itemTokens, List.intercalate_nil, List.nil_append, List.singleton_append, build, List.reverse_nil]
  | cons item items =>
    obtain ⟨hitem, hitems⟩ := List.forall_mem_cons.1 h
    rw [itemTokens, intercalate_cons, List.append_assoc, build_firstItem, hitem, List.singleton_append,
      build_laterItems hitems, List.reverse_nil, List.nil_append]

theorem builds_object {members : List (Option String × Json)} (h : ∀ member ∈ members, Builds member.2) :
    Builds (.object members) := by
  intro stack rest
  rw [tokensOf, enclosed, List.cons_append, List.append_assoc, build, build.buildValue]
  cases members with
  | nil => rw [memberTokens, List.intercalate_nil, List.nil_append, List.singleton_append, build, List.reverse_nil]
  | cons member members =>
    obtain ⟨hmember, hmembers⟩ := List.forall_mem_cons.1 h
    rw [memberTokens, intercalate_cons, List.append_assoc, List.cons_append, List.cons_append, build, build, hmember,
      List.singleton_append, build_laterMembers hmembers, List.reverse_nil, List.nil_append]

mutual

/-- Every tree is built again from its tokens. -/
theorem builds : (tree : Json) → Builds tree
  | .null | .bool _ | .number _ | .string _ => fun stack rest => by
    rw [tokensOf, List.singleton_append, build, build.buildValue]
  | .array items => builds_array (builds_items items)
  | .object members => builds_object (builds_members members)

theorem builds_items : (items : List Json) → ∀ item ∈ items, Builds item
  | [] => List.forall_mem_nil _
  | item :: rest => List.forall_mem_cons.2 ⟨builds item, builds_items rest⟩

theorem builds_members : (members : List (Option String × Json)) → ∀ member ∈ members, Builds member.2
  | [] => List.forall_mem_nil _
  | (_, tree) :: rest => List.forall_mem_cons.2 ⟨builds tree, builds_members rest⟩

end

/-! ## Trees of values -/

mutual

/-- The tree that a value is written as. -/
def treeOf : Value → Json
  | .bool b => .bool b
  | .text s => .string s
  | .number n => .number n
  | .name s => .string s
  | .none => .null
  | .some inner => treeOf inner
  | .list items => .array (itemTrees items)
  | .dict entries => .object (memberTrees entries)
  | .record fields => .object (memberTrees fields)

/-- The trees of the items of a list. -/
def itemTrees : List Value → List Json
  | [] => []
  | item :: rest => treeOf item :: itemTrees rest

/-- The members of the object that a map or a record is written as. -/
def memberTrees : List (String × Value) → List (Option String × Json)
  | [] => []
  | (key, value) :: rest => (key, treeOf value) :: memberTrees rest

end

theorem spells_bool (b : Bool) : Spells (if b then "true" else "false").toList [.bool b] := by
  cases b <;> exact spells_of_scan? rfl fun _ _ => rfl

theorem spells_null : Spells "null".toList [.null] :=
  spells_of_scan? rfl fun _ _ => rfl

theorem spells_member {text : List Char} {tokens : List Token} (key : String) (h : Spells text tokens) :
    Spells (quoted key ++ [':', ' '] ++ text) (.string (some key) :: .colon :: tokens) := by
  have hvalue : Spells (' ' :: text) tokens := Spells.blanks_append (List.forall_mem_singleton.2 rfl) h
  have hcolon : Spells (':' :: ' ' :: text) (.colon :: tokens) := hvalue.mark ⟨rfl, fun _ => rfl⟩
  rw [List.append_assoc]
  exact (spells_quoted key).append (ends_cons rfl _) hcolon

theorem spells_array (depth : Nat) {texts : List (List Char)} {parts : List (List Token)}
    (h : List.Forall₂ Spells texts parts) :
    Spells (bracketed '[' ']' depth texts) (enclosed .openArray .closeArray parts) :=
  spells_bracketed depth ⟨rfl, fun _ => rfl⟩ ⟨rfl, fun _ => rfl⟩ h

theorem spells_object (depth : Nat) {texts : List (List Char)} {parts : List (List Token)}
    (h : List.Forall₂ Spells texts parts) :
    Spells (bracketed '\x7b' '\x7d' depth texts) (enclosed .openObject .closeObject parts) :=
  spells_bracketed depth ⟨rfl, fun _ => rfl⟩ ⟨rfl, fun _ => rfl⟩ h

mutual

/-- The text of a value has the tokens of its tree. -/
theorem spells_write : (value : Value) → (depth : Nat) → Spells (write depth value) (tokensOf (treeOf value))
  | .bool b, _ => spells_bool b
  | .text s, _ | .name s, _ => spells_quoted s
  | .number n, _ => spells_toString n
  | .none, _ => spells_null
  | .some inner, depth => spells_write inner depth
  | .list items, depth => spells_array depth (spells_items items (depth + 1))
  | .dict entries, depth => spells_object depth (spells_members entries (depth + 1))
  | .record fields, depth => spells_object depth (spells_members fields (depth + 1))

theorem spells_items : (items : List Value) → (depth : Nat) →
    List.Forall₂ Spells (writeItems depth items) (itemTokens (itemTrees items))
  | [], _ => .nil
  | item :: rest, depth => .cons (spells_write item depth) (spells_items rest depth)

theorem spells_members : (entries : List (String × Value)) → (depth : Nat) →
    List.Forall₂ Spells (writeMembers depth entries) (memberTokens (memberTrees entries))
  | [], _ => .nil
  | (key, value) :: rest, depth => .cons (spells_member key (spells_write value depth)) (spells_members rest depth)

end

/-- What is written is read as the tree of the value. -/
theorem parse?_pretty (value : Value) : parse? (pretty value) = some (treeOf value) := by
  have hbuild := builds (treeOf value) [] []
  rw [List.append_nil] at hbuild
  rw [parse?, pretty, String.toList_ofList, (spells_write value 0).tokens?_eq, Option.bind_some, hbuild, build]

/-! ## Values of a shape -/

mutual

/-- Does no optional stand directly in another one, anywhere in the shape? -/
def unambiguous : Shape → Bool
  | .optional (.optional _) => false
  | .optional inner => unambiguous inner
  | .list item => unambiguous item
  | .dict item => unambiguous item
  | .record _ fields => unambiguousFields fields
  | _ => true

/-- The same, in the shapes of all fields. -/
def unambiguousFields : Fields → Bool
  | .nil => true
  | .cons _ _ shape rest => unambiguous shape && unambiguousFields rest

end

theorem of_unambiguous_optional {inner : Shape} (h : unambiguous (.optional inner) = true) :
    (∀ shape, inner ≠ .optional shape) ∧ unambiguous inner = true := by
  cases inner with
  | optional _ => nomatch h
  | _ =>
    refine ⟨?_, h⟩
    rintro _ ⟨⟩

theorem treeOf_ne_null {shape : Shape} {value : Value} (h : Fits shape value)
    (hshape : ∀ inner, shape ≠ .optional inner) : treeOf value ≠ .null := by
  cases h with
  | none inner => exact absurd rfl (hshape inner)
  | some hinner => exact absurd rfl (hshape _)
  | _ => rintro ⟨⟩

theorem itemTrees_eq (items : List Value) : itemTrees items = items.map treeOf := by
  induction items with
  | nil => rfl
  | cons item rest ih => rw [itemTrees, ih, List.map_cons]

theorem textKeys?_memberTrees (entries : List (String × Value)) :
    textKeys? (memberTrees entries) = some (entries.map fun entry => (entry.1, treeOf entry.2)) := by
  induction entries with
  | nil => rfl
  | cons entry rest ih =>
    rw [textKeys?] at ih
    rw [memberTrees, textKeys?, List.mapM_cons, ih]
    rfl

/-- If each key has one member, that is the member found under its key. -/
theorem filter_key {members : List (String × Json)} (hnodup : (members.map Prod.fst).Nodup)
    {member : String × Json} (h : member ∈ members) : members.filter (·.1 == member.1) = [member] := by
  induction members with
  | nil => nomatch h
  | cons first rest ih =>
    rw [List.map_cons, List.nodup_cons] at hnodup
    obtain ⟨hfirst, hrest⟩ := hnodup
    rcases List.mem_cons.1 h with rfl | hmem
    · have hothers : rest.filter (·.1 == member.1) = [] := by
        rw [List.filter_eq_nil_iff]
        intro other hother heq
        exact hfirst (eq_of_beq heq ▸ List.mem_map_of_mem hother)
      rw [List.filter_cons, if_pos (beq_self_eq_true _), hothers]
    · have hne : (first.1 == member.1) ≠ true := by
        intro heq
        exact hfirst (eq_of_beq heq ▸ List.mem_map_of_mem hmem)
      rw [List.filter_cons, if_neg hne, ih hrest hmem]

theorem fit?_optional {inner : Shape} {tree : Json} (h : tree ≠ .null) :
    fit? (.optional inner) tree = (fit? inner tree).map .some := by
  rw [fit?]
  exact h

-- The fields go down with the induction, while the members stay those of the whole record.
mutual

/-- The tree of a value is taken as the value. -/
theorem fit?_treeOf : (shape : Shape) → {value : Value} → unambiguous shape = true → Fits shape value →
    fit? shape (treeOf value) = some value
  | .bool, _, _, .bool b => rfl
  | .text, _, _, .text s => rfl
  | .word, _, _, .word (n := n) h => by
    rw [treeOf, fit?, if_pos ⟨Int.natCast_nonneg n, h⟩]
  | .level, _, _, .level h => by rw [treeOf, fit?, if_pos h]
  | .name _, _, _, .name hchoice _ => by rw [treeOf, fit?, if_pos hchoice]
  | .optional _, _, _, .none _ => by rw [treeOf, fit?]
  | .optional inner, _, hclear, .some h => by
    -- the content is not written as `null`, so it is not taken for the missing value
    obtain ⟨hinner, hclear⟩ := of_unambiguous_optional hclear
    rw [treeOf, fit?_optional (treeOf_ne_null h hinner), fit?_treeOf inner hclear h, Option.map_some]
  | .list item, _, hclear, .list h => by
    have hitems := mapM_map_eq_some fun value hvalue => fit?_treeOf item hclear (h value hvalue)
    rw [treeOf, fit?, itemTrees_eq, hitems, Option.map_some]
  | .dict item, _, hclear, .dict h => by
    have hentries := mapM_entries_eq_some fun entry hentry => fit?_treeOf item hclear (h entry hentry)
    rw [treeOf, fit?, textKeys?_memberTrees]
    simp only [bind, Option.bind, hentries]
  | .record _ fields, .record values, hclear, .record _ hnodup h => by
    have hkeys : ((values.map fun field => (field.1, treeOf field.2)).map Prod.fst).Nodup := by
      rw [List.map_map, Function.comp_def, h.map_fst]
      exact hnodup
    have hfields := fitMembers_treeOf hkeys fields hclear h fun field hfield => List.mem_map_of_mem hfield
    rw [treeOf, fit?, textKeys?_memberTrees]
    simp only [bind, Option.bind, hfields, Option.map_some]

theorem fitMembers_treeOf {members : List (String × Json)} (hkeys : (members.map Prod.fst).Nodup) :
    (fields : Fields) → {values : List (String × Value)} → unambiguousFields fields = true →
      FitsFields fields values → (∀ field ∈ values, (field.1, treeOf field.2) ∈ members) →
        fitMembers fields members = some values
  | .nil, _, _, .nil, _ => rfl
  | .cons name _ shape rest, _, hclear, .cons hvalue hrest, hmem => by
    obtain ⟨hfield, hlater⟩ := List.forall_mem_cons.1 hmem
    obtain ⟨hshape, hfields⟩ := Bool.and_eq_true_iff.1 hclear
    rw [fitMembers, filter_key hkeys hfield]
    simp only [bind, Option.bind, fit?_treeOf shape hshape hvalue,
      fitMembers_treeOf hkeys rest hfields hrest hlater]

end

/-- What is written for a shape is read back as it was. -/
theorem read?_pretty {shape : Shape} {value : Value} (hclear : unambiguous shape = true) (h : Fits shape value) :
    read? shape (pretty value) = some value := by
  rw [read?, parse?_pretty, Option.bind_some, fit?_treeOf shape hclear h]

-- Why no optional may stand in another one: this value comes back as the outer `none`.
example : read? (.optional (.optional .text)) (pretty (.some .none)) = some .none := by
  rw [read?, parse?_pretty]
  rfl

end Storyline.Json
