-- SUMMARY: A value that fits its shape is read back from the text it is written as.
import Storyline.Proofs.Ron.Lexical
import Storyline.Ron.Reader
import Storyline.Ron.Writer

/-!
# Reading back what was written

`Fits` says which values a shape declares. Each reader takes back what the writer makes of such a value,
whatever follows it (`Reads`), and readers that are put together from others inherit that: items in brackets,
fields with their names, optional values. The induction is on the shape (`reads_write`).
-/

namespace Storyline.Ron

open Data Text

variable {α β : Type} {value : α} {c : Char} {text blanks rest : List Char} {extensions : Extensions}
  {room depth : Nat}

/-! ## Reading back -/

/-- The marks that close brackets. -/
def closingMarks : List Char :=
  [']', ')', '\x7d']

/-- The characters of blanks, comments and attributes, and the closing marks. -/
def neverOpening : List Char :=
  [' ', '\t', '\n', '\r', '/', '#'] ++ closingMarks

/-- May a value begin with this character? -/
def isOpening (c : Char) : Bool :=
  !neverOpening.contains c

theorem ne_of_isOpening (h : isOpening c = true) {d : Char} (hd : isOpening d = false) : c ≠ d := by
  rintro rfl
  exact Bool.false_ne_true (hd.symm.trans h)

theorem isSpace_of_isOpening (h : isOpening c = true) : isSpace c = false := by
  cases hspace : isSpace c with
  | false => rfl
  | true =>
    simp only [isSpace, Bool.or_eq_true, beq_iff_eq] at hspace
    rcases hspace with ((rfl | rfl) | rfl) | rfl <;> cases h

theorem isOpening_of_isRawIdentChar (h : isRawIdentChar c = true) : isOpening c = true := by
  have hothers : neverOpening.all (!isRawIdentChar ·) = true := rfl
  by_contra hnot
  have hmem : c ∈ neverOpening := by simpa [isOpening] using hnot
  simpa [h] using List.all_eq_true.1 hothers c hmem

theorem isOpening_of_mem_closingMarks (h : c ∈ closingMarks) : isOpening c = false := by
  have hmem : c ∈ neverOpening := List.mem_append_right _ h
  simpa [isOpening] using hmem

/-- The reader takes `value` from `text`, wherever that ends. -/
structure Reads (reader : Reader α) (value : α) (text : List Char) : Prop where
  opening : ∃ c more, text = c :: more ∧ isOpening c = true
  back : ∀ rest, Ends rest → reader (text ++ rest) = some (value, rest)

theorem Reads.skip_append {reader : Reader α} (h : Reads reader value text)
    (hblanks : ∀ c ∈ blanks, isSpace c = true) (rest : List Char) :
    skip (blanks ++ (text ++ rest)) = some (text ++ rest) := by
  obtain ⟨c, more, rfl, hc⟩ := h.opening
  exact skip_blanks_append hblanks (isSpace_of_isOpening hc) (ne_of_isOpening hc rfl) _

/-- What is taken may be turned into something else. -/
theorem Reads.map {reader : Reader α} (h : Reads reader value text) (f : α → β) :
    Reads (fun s => (reader s).map fun (a, rest) => (f a, rest)) (f value) text where
  opening := h.opening
  back rest hrest := by rw [h.back rest hrest, Option.map_some]

/-- What is taken may have to pass a test. -/
theorem Reads.checked {reader : Reader α} (h : Reads reader value text) (p : α → Prop) [DecidablePred p]
    (hp : p value) (f : α → β) :
    Reads (fun s => do
      let (a, rest) ← reader s
      if p a then some (f a, rest) else none) (f value) text where
  opening := h.opening
  back rest hrest := by simp only [bind, Option.bind, h.back rest hrest, if_pos hp]

theorem reads_string? (s : String) : Reads string? s (quoted true s).toList where
  opening := ⟨'"', _, String.toList_ofList, rfl⟩
  back rest _ := string?_quoted s rest

theorem reads_identifier? {name : String} (h : isName name = true) :
    Reads identifier? name name.toList where
  opening := by
    cases hs : name.toList with
    | nil => simp [isName, hs] at h
    | cons c more =>
      simp only [isName, hs, Bool.and_eq_true] at h
      have hc : isIdentChar c = true := by rw [isIdentChar, h.1.1, Bool.true_or]
      exact ⟨c, more, rfl, isOpening_of_isRawIdentChar (isRawIdentChar_of_isIdentChar hc)⟩
  back _ hrest := identifier?_append h hrest

theorem reads_natural? (n : Nat) : Reads natural? n (Nat.toDigits 10 n) where
  opening := by
    obtain ⟨c, more, hdigits, hc, -⟩ := toDigits_eq_cons n
    have hident : isIdentChar c = true := by rw [isIdentChar, hc, Bool.or_true]
    exact ⟨c, more, hdigits, isOpening_of_isRawIdentChar (isRawIdentChar_of_isIdentChar hident)⟩
  back _ hrest := natural?_toDigits_append hrest n

theorem reads_integer? (n : Int) : Reads integer? n (toString n).toList where
  opening := by
    cases n with
    | ofNat n =>
      rw [Int.ofNat_eq_natCast, toList_toString_natCast]
      exact (reads_natural? n).opening
    | negSucc n => exact ⟨'-', _, toList_toString_negSucc n, rfl⟩
  back _ hrest := integer?_append hrest n

/-! ## Items -/

/-- The line of an item between brackets at the given depth. -/
def itemLine (depth : Nat) (item : List Char) : List Char :=
  lineStart (depth + 1) ++ item ++ [',', '\n']

theorem isSpace_of_mem_indented (hblanks : ∀ c ∈ blanks, isSpace c = true) (depth : Nat) :
    ∀ c ∈ blanks ++ lineStart depth, isSpace c = true := by
  intro c hc
  rcases List.mem_append.1 hc with hc | hc
  · exact hblanks c hc
  · rw [List.eq_of_mem_replicate hc]
    rfl

/-- Marks and blanks end what stands before them. -/
theorem skip_mark (h : isOpening c = true) (rest : List Char) : skip (c :: rest) = some (c :: rest) :=
  skip_cons (isSpace_of_isOpening h) (ne_of_isOpening h rfl) rest

theorem skip_closing (h : c ∈ closingMarks) (hblanks : ∀ c ∈ blanks, isSpace c = true) (rest : List Char) :
    skip (blanks ++ c :: rest) = some (c :: rest) := by
  have hmarks : closingMarks.all (fun c => !isSpace c && c != '/') = true := rfl
  have hc : isSpace c = false ∧ c ≠ '/' := by simpa using List.all_eq_true.1 hmarks c h
  exact skip_blanks_append hblanks hc.1 hc.2 rest

section Items

variable {item : Reader α} {closing : Char} {fuel : Nat}

theorem itemsFrom_closing (hclosing : closing ∈ closingMarks) (hblanks : ∀ c ∈ blanks, isSpace c = true)
    (rest : List Char) : itemsFrom item closing (fuel + 1) (blanks ++ closing :: rest) = some ([], rest) := by
  simp [itemsFrom, skip_closing hclosing hblanks]

/-- One item is taken, with the comma behind it. -/
theorem itemsFrom_append (h : Reads item value text) (hclosing : closing ∈ closingMarks)
    (hblanks : ∀ c ∈ blanks, isSpace c = true) (rest : List Char) :
    itemsFrom item closing (fuel + 1) (blanks ++ (text ++ ',' :: rest)) =
      (itemsFrom item closing fuel rest).map fun (values, rest) => (value :: values, rest) := by
  have hskip := h.skip_append hblanks (',' :: rest)
  have hback := h.back (',' :: rest) (ends_cons rfl rest)
  obtain ⟨c, more, rfl, hc⟩ := h.opening
  have hne : (c == closing) = false :=
    beq_eq_false_iff_ne.2 (ne_of_isOpening hc (isOpening_of_mem_closingMarks hclosing))
  rw [List.cons_append] at hskip hback
  simp only [itemsFrom, List.cons_append, hskip, bind, Option.bind, hne, Bool.false_eq_true, if_false, hback,
    skip_mark (c := ',') rfl]
  cases itemsFrom item closing fuel rest <;> rfl

/-- The lines of the items, up to the closing mark. -/
theorem itemsFrom_lines (depth : Nat) {values : List β} {value : β → α} {text : β → List Char}
    (hread : ∀ b ∈ values, Reads item (value b) (text b)) (hclosing : closing ∈ closingMarks)
    (hblanks : ∀ c ∈ blanks, isSpace c = true) (hfuel : values.length < fuel) (rest : List Char) :
    itemsFrom item closing fuel
        (blanks ++ ((values.map text).flatMap (itemLine depth) ++ (lineStart depth ++ closing :: rest))) =
      some (values.map value, rest) := by
  obtain ⟨fuel, rfl⟩ := Nat.exists_eq_add_one.2 (Nat.zero_lt_of_lt hfuel)
  -- behind each item the line break stands before the rest, so the blanks in front vary
  induction values generalizing blanks fuel with
  | nil =>
    rw [List.map_nil, List.flatMap_nil, List.nil_append, ← List.append_assoc]
    exact itemsFrom_closing hclosing (isSpace_of_mem_indented hblanks depth) rest
  | cons b values ih =>
    obtain ⟨hb, hvalues⟩ := List.forall_mem_cons.1 hread
    obtain ⟨fuel, rfl⟩ := Nat.exists_eq_add_one.2 (Nat.zero_lt_of_lt (Nat.lt_of_succ_lt_succ hfuel))
    have hbreak : ∀ c ∈ ['\n'], isSpace c = true := List.forall_mem_singleton.2 rfl
    have hrest := ih hvalues hbreak fuel (Nat.lt_of_succ_lt_succ hfuel)
    have hline := isSpace_of_mem_indented hblanks (depth + 1)
    simp only [List.map_cons, List.flatMap_cons, itemLine, List.append_assoc, List.cons_append,
      List.nil_append] at hrest ⊢
    rw [← List.append_assoc blanks, itemsFrom_append hb hclosing hline, hrest, Option.map_some]

end Items

/-- What is written behind an opening mark. -/
def inside (closing : Char) (depth : Nat) (items : List (List Char)) : List Char :=
  match items with
  | [] => [closing]
  | _ => '\n' :: items.flatMap (itemLine depth) ++ lineStart depth ++ [closing]

theorem bracketed_eq (opening closing : Char) (depth : Nat) (items : List (List Char)) :
    bracketed opening closing depth items = opening :: inside closing depth items := by
  cases items <;> rfl

theorem length_le_inside (closing : Char) (depth : Nat) (items : List (List Char)) :
    items.length ≤ (inside closing depth items).length := by
  cases items with
  | nil => exact Nat.zero_le 1
  | cons item items =>
    have hlines : (item :: items).length ≤ ((item :: items).flatMap (itemLine depth)).length :=
      length_le_length_flatMap fun item _ => by simp [itemLine]
    simp only [inside, List.length_append, List.length_cons] at hlines ⊢
    omega

/-- The items between brackets are read back. -/
theorem items?_inside {item : Reader α} {closing : Char} {values : List β} {value : β → α}
    {text : β → List Char} (depth : Nat) (hread : ∀ b ∈ values, Reads item (value b) (text b))
    (hclosing : closing ∈ closingMarks) (rest : List Char) :
    items? item closing (inside closing depth (values.map text) ++ rest) = some (values.map value, rest) := by
  have hlength := length_le_inside closing depth (values.map text)
  have hfuel : values.length < (inside closing depth (values.map text) ++ rest).length + 1 := by
    rw [List.length_map] at hlength
    rw [List.length_append]
    omega
  rw [items?]
  cases values with
  | nil =>
    have hnone : ∀ c ∈ ([] : List Char), isSpace c = true := List.forall_mem_nil _
    exact itemsFrom_closing hclosing hnone rest
  | cons b values =>
    have hbreak : ∀ c ∈ ['\n'], isSpace c = true := List.forall_mem_singleton.2 rfl
    rw [← itemsFrom_lines depth hread hclosing hbreak hfuel rest]
    simp [inside]

/-! ## Keys and optional values -/

theorem Reads.keyed {key : Reader α} {value : α → Reader β} {k : α} {v : β} {keyText : List Char}
    (hkey : Reads key k keyText) (hvalue : Reads (value k) v text) :
    Reads (keyed key value) (k, v) (keyText ++ [':', ' '] ++ text) where
  opening := by
    obtain ⟨c, more, rfl, hc⟩ := hkey.opening
    exact ⟨c, _, rfl, hc⟩
  back rest hrest := by
    have htext : keyText ++ [':', ' '] ++ text ++ rest = keyText ++ ':' :: ([' '] ++ (text ++ rest)) := by simp
    have hkeyed := hkey.back (':' :: ([' '] ++ (text ++ rest))) (ends_cons rfl _)
    have hcolon : mark? ':' (':' :: ([' '] ++ (text ++ rest))) = some ([' '] ++ (text ++ rest)) :=
      mark?_cons rfl (by decide) _
    have hblank := hvalue.skip_append (List.forall_mem_singleton.2 (rfl : isSpace ' ' = true)) rest
    rw [htext, Ron.keyed, hkeyed]
    simp only [bind, Option.bind, hcolon, hblank, hvalue.back rest hrest]

theorem after?_append (word rest : List Char) : after? word (word ++ rest) = some rest :=
  after?_eq_some_iff.2 rfl

theorem reads_option?_none (content : Reader α) :
    Reads (option? extensions content) none "None".toList where
  opening := ⟨'N', _, rfl, rfl⟩
  back rest _ := by rw [option?, after?_append]

theorem Reads.option?_some {content : Reader α} (h : Reads content value text) :
    Reads (option? extensions content) (some value) ("Some(".toList ++ text ++ [')']) where
  opening := ⟨'S', _, rfl, rfl⟩
  back rest _ := by
    have htext : "Some(".toList ++ text ++ [')'] ++ rest = "Some".toList ++ '(' :: (text ++ ')' :: rest) := by
      simp
    have hnone (rest : List Char) : after? "None".toList ("Some".toList ++ rest) = none := rfl
    have hopening : skip ('(' :: (text ++ ')' :: rest)) = some ('(' :: (text ++ ')' :: rest)) :=
      skip_mark rfl _
    have hcontent : skip (text ++ ')' :: rest) = some (text ++ ')' :: rest) :=
      h.skip_append (List.forall_mem_nil _) _
    have hback := h.back (')' :: rest) (ends_cons rfl rest)
    have hclosing : skip (')' :: rest) = some (')' :: rest) := skip_cons rfl (by decide) rest
    rw [htext, option?, hnone, after?_append]
    simp only [bind, Option.bind, hopening, hcontent, hback, hclosing, after?, if_true]
    rfl

/-! ## Values of a shape -/

mutual

/-- The value is one that the shape declares, with all its fields. -/
inductive Fits : Shape → Value → Prop
  | bool (b : Bool) : Fits .bool (.bool b)
  | text (s : String) : Fits .text (.text s)
  | word {n : Nat} (h : fitsWord n = true) : Fits .word (.number n)
  | level {n : Int} (h : fitsLevel n = true) : Fits .level (.number n)
  | name {choices : List String} {s : String} (hchoice : s ∈ choices) (hname : isName s = true) :
    Fits (.name choices) (.name s)
  | none (inner : Shape) : Fits (.optional inner) .none
  | some {inner : Shape} {value : Value} (h : Fits inner value) : Fits (.optional inner) (.some value)
  | list {item : Shape} {items : List Value} (h : ∀ value ∈ items, Fits item value) :
    Fits (.list item) (.list items)
  | dict {item : Shape} {entries : List (String × Value)} (h : ∀ entry ∈ entries, Fits item entry.2) :
    Fits (.dict item) (.dict entries)
  | record {name : String} {fields : Fields} {values : List (String × Value)}
    (hnames : ∀ field ∈ fields.names, isName field = true) (hnodup : fields.names.Nodup)
    (h : FitsFields fields values) : Fits (.record name fields) (.record values)

/-- The values are those of the declared fields, in their order. -/
inductive FitsFields : Fields → List (String × Value) → Prop
  | nil : FitsFields .nil []
  | cons {name : String} {presence : Presence} {shape : Shape} {fields : Fields} {value : Value}
    {values : List (String × Value)} (hvalue : Fits shape value) (hrest : FitsFields fields values) :
    FitsFields (.cons name presence shape fields) ((name, value) :: values)

end

theorem writeItems_eq (depth : Nat) (items : List Value) :
    writeItems depth items = items.map (write depth) := by
  induction items with
  | nil => rfl
  | cons item rest ih => rw [writeItems, ih, List.map_cons]

theorem writeEntries_eq (depth : Nat) (entries : List (String × Value)) :
    writeEntries depth entries =
      entries.map fun entry => (quoted true entry.1).toList ++ [':', ' '] ++ write depth entry.2 := by
  induction entries with
  | nil => rfl
  | cons entry rest ih => rw [writeEntries, ih, List.map_cons]

theorem writeFields_eq (depth : Nat) (fields : List (String × Value)) :
    writeFields depth fields =
      fields.map fun field => field.1.toList ++ [':', ' '] ++ write depth field.2 := by
  induction fields with
  | nil => rfl
  | cons field rest ih => rw [writeFields, ih, List.map_cons]

theorem FitsFields.map_fst {fields : Fields} {values : List (String × Value)}
    (h : FitsFields fields values) : values.map Prod.fst = fields.names := by
  cases h with
  | nil => rfl
  | cons _ hrest => rw [List.map_cons, hrest.map_fst, Fields.names]

theorem complete_of_names {found : List (String × Value)} :
    (fields : Fields) → (∀ name ∈ fields.names, name ∈ found.map Prod.fst) → complete found fields = true
  | .nil, _ => rfl
  | .cons name presence _ rest, h => by
    obtain ⟨hname, hrest⟩ := List.forall_mem_cons.1 h
    have hany : found.any (·.1 == name) = true := by simpa using hname
    rw [complete, hany, Bool.or_true, Bool.true_and]
    exact complete_of_names rest hrest

/-- A record is taken as it was written if its fields are those that were declared. -/
theorem recordOf?_of_fitsFields {fields : Fields} {values : List (String × Value)}
    (hnodup : fields.names.Nodup) (h : FitsFields fields values) :
    recordOf? fields (values.map fun field => (field.1, some field.2)) = some (.record values) := by
  have hcomplete : complete values fields = true := by
    apply complete_of_names
    rw [h.map_fst]
    exact fun name hname => hname
  simp only [recordOf?, List.filterMap_map, Function.comp_def, Option.map_some, Prod.mk.eta, List.filterMap_some,
    h.map_fst, if_pos (And.intro hnodup hcomplete)]

theorem reads_bool (b : Bool) : Reads (value? extensions room .bool) (.bool b) (write depth (.bool b)) where
  opening := by cases b <;> exact ⟨_, _, rfl, rfl⟩
  back rest _ := by cases b <;> rfl

theorem reads_text (s : String) : Reads (value? extensions room .text) (.text s) (write depth (.text s)) := by
  rw [value?, write]
  exact (reads_string? s).map Value.text

theorem reads_word {n : Nat} (h : fitsWord n = true) :
    Reads (value? extensions room .word) (.number n) (write depth (.number n)) := by
  rw [value?, write, toList_toString_natCast]
  exact (reads_natural? n).checked (fitsWord · = true) h fun n : Nat => Value.number n

theorem reads_level {n : Int} (h : fitsLevel n = true) :
    Reads (value? extensions room .level) (.number n) (write depth (.number n)) := by
  rw [value?, write]
  exact (reads_integer? n).checked (fitsLevel · = true) h Value.number

theorem reads_name {choices : List String} {s : String} (hchoice : s ∈ choices) (hname : isName s = true) :
    Reads (value? extensions room (.name choices)) (.name s) (write depth (.name s)) := by
  rw [value?, write]
  exact (reads_identifier? hname).checked (· ∈ choices) hchoice Value.name

theorem value?_optional (inner : Shape) :
    value? extensions room (.optional inner) = fun s =>
      (option? extensions (value? extensions (room - 1) inner) s).map fun (value, rest) =>
        (Value.ofOption id value, rest) := by
  rw [value?]
  funext s
  congr
  funext ⟨value, rest⟩
  cases value <;> rfl

theorem reads_none (inner : Shape) :
    Reads (value? extensions room (.optional inner)) .none (write depth .none) := by
  rw [value?_optional, write]
  exact (reads_option?_none _).map (Value.ofOption id)

theorem reads_some {inner : Shape} {value : Value}
    (h : Reads (value? extensions (room - 1) inner) value (write depth value)) :
    Reads (value? extensions room (.optional inner)) (.some value) (write depth (.some value)) := by
  rw [value?_optional, write]
  exact h.option?_some.map (Value.ofOption id)

theorem reads_list {item : Shape} {items : List Value}
    (h : ∀ value ∈ items, Reads (value? extensions (room - 2) item) value (write (depth + 1) value)) :
    Reads (value? extensions room (.list item)) (.list items) (write depth (.list items)) := by
  rw [value?, write, bracketed_eq, writeItems_eq]
  refine ⟨⟨'[', _, rfl, rfl⟩, fun rest _ => ?_⟩
  have hitems := items?_inside depth h (by decide : ']' ∈ closingMarks) rest
  rw [List.map_id'] at hitems
  simp only [List.cons_append, after?, if_true, bind, Option.bind, hitems]

theorem reads_dict {item : Shape} {entries : List (String × Value)}
    (h : ∀ entry ∈ entries, Reads (value? extensions (room - 2) item) entry.2 (write (depth + 1) entry.2)) :
    Reads (value? extensions room (.dict item)) (.dict entries) (write depth (.dict entries)) := by
  rw [value?, write, bracketed_eq, writeEntries_eq]
  refine ⟨⟨'\x7b', _, rfl, rfl⟩, fun rest _ => ?_⟩
  have hentry (entry : String × Value) (hmem : entry ∈ entries) :
      Reads (keyed string? fun _ => value? extensions (room - 2) item) entry
        ((quoted true entry.1).toList ++ [':', ' '] ++ write (depth + 1) entry.2) :=
    (reads_string? entry.1).keyed (h entry hmem)
  have hitems := items?_inside depth hentry (by decide : '\x7d' ∈ closingMarks) rest
  rw [List.map_id'] at hitems
  simp only [List.cons_append, after?, if_true, bind, Option.bind, hitems]

theorem reads_record {name : String} {fields : Fields} {values : List (String × Value)}
    (hnames : ∀ field ∈ fields.names, isName field = true) (hnodup : fields.names.Nodup)
    (hfits : FitsFields fields values)
    (h : ∀ field ∈ values,
      Reads (field? extensions (room - 2) fields field.1) (some field.2) (write (depth + 1) field.2)) :
    Reads (value? extensions room (.record name fields)) (.record values) (write depth (.record values)) := by
  rw [value?, write, bracketed_eq, writeFields_eq]
  refine ⟨⟨'(', _, rfl, rfl⟩, fun rest _ => ?_⟩
  have hfield (field : String × Value) (hmem : field ∈ values) :
      Reads (keyed identifier? (field? extensions (room - 2) fields)) (field.1, some field.2)
        (field.1.toList ++ [':', ' '] ++ write (depth + 1) field.2) := by
    have hname : field.1 ∈ fields.names := by
      rw [← hfits.map_fst]
      exact List.mem_map_of_mem hmem
    exact (reads_identifier? (hnames _ hname)).keyed (h field hmem)
  have hitems := items?_inside depth hfield (by decide : ')' ∈ closingMarks) rest
  have hrecord (s : List Char) : recordName? name ('(' :: s) = some ('(' :: s) := rfl
  have hmark (s : List Char) : mark? '(' ('(' :: s) = some s := mark?_cons rfl (by decide) s
  simp only [List.cons_append, bind, Option.bind, hrecord, hmark, hitems, recordOf?_of_fitsFields hnodup hfits]

/-! ## What was written -/

-- The room that is left does not matter: it bounds only values that are passed over, and none is.
mutual

/-- A value is read back from its text. -/
theorem reads_write (room depth : Nat) :
    (shape : Shape) → {value : Value} → Fits shape value →
      Reads (value? extensions room shape) value (write depth value)
  | .bool, _, .bool b => reads_bool b
  | .text, _, .text s => reads_text s
  | .word, _, .word h => reads_word h
  | .level, _, .level h => reads_level h
  | .name _, _, .name hchoice hname => reads_name hchoice hname
  | .optional inner, _, .none _ => reads_none inner
  | .optional inner, _, .some h => reads_some (reads_write (room - 1) depth inner h)
  | .list item, _, .list h =>
    reads_list fun value hvalue => reads_write (room - 2) (depth + 1) item (h value hvalue)
  | .dict item, _, .dict h =>
    reads_dict fun entry hentry => reads_write (room - 2) (depth + 1) item (h entry hentry)
  | .record _ fields, _, .record hnames hnodup h =>
    reads_record hnames hnodup h (reads_field (room - 2) (depth + 1) fields hnodup h)

theorem reads_field (room depth : Nat) :
    (fields : Fields) → {values : List (String × Value)} → fields.names.Nodup → FitsFields fields values →
      ∀ field ∈ values, Reads (field? extensions room fields field.1) (some field.2) (write depth field.2)
  | .nil, _, _, .nil, _, hmem => nomatch hmem
  | .cons name presence shape rest, _, hnodup, .cons hvalue hrest, field, hmem => by
    obtain ⟨hname, hnodup⟩ := List.nodup_cons.1 hnodup
    rw [field?]
    rcases List.mem_cons.1 hmem with rfl | hlater
    · rw [if_pos rfl]
      exact (reads_write room depth shape hvalue).map some
    · have hne : name ≠ field.1 := by
        rintro rfl
        rw [← hrest.map_fst] at hname
        exact hname (List.mem_map_of_mem hlater)
      rw [if_neg hne]
      exact reads_field room depth rest hnodup hrest field hlater

end

theorem attributes?_cons (hc : c ≠ '#') (fuel : Nat) (s : List Char) :
    attributes? extensions fuel (c :: s) = some (extensions, c :: s) := by
  cases fuel with
  | zero => rfl
  | succ fuel =>
    unfold attributes?
    split
    next heq => exact absurd (List.cons.inj heq).1 hc
    next => rfl

/-- What is written for a shape is read back as it was. -/
theorem read?_pretty {shape : Shape} {value : Value} (h : Fits shape value) :
    read? shape (pretty value) = some value := by
  have hread : Reads (value? {} nestingLimit shape) value (write 0 value) := reads_write nestingLimit 0 shape h
  have hskip := hread.skip_append (List.forall_mem_nil _) []
  have hback := hread.back [] ends_nil
  obtain ⟨c, more, hwritten, hc⟩ := hread.opening
  simp only [List.nil_append, List.append_nil, hwritten] at hskip hback
  rw [read?, pretty, String.toList_ofList, hwritten, hskip]
  simp only [bind, Option.bind, attributes?_cons (ne_of_isOpening hc rfl), hback]
  rfl

example :
    pretty (.record [("text", .text "it's \u200b"), ("target", .none)]) =
      "(\n    text: \"it\\'s \\u\x7b200b\x7d\",\n    target: None,\n)" := by
  decide +kernel

end Storyline.Ron
