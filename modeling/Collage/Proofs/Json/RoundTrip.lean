import Mathlib.Data.List.DropRight
import Collage.Library.Stock
import Collage.Proofs.Json.Numeral
import Collage.Proofs.Json.Quotation

/-! # Reading what was written

A value without doubles is read as it was written, on one line or with an indentation of blanks
(`Json.readWithin_print`), so the filters `encode` and `decode` undo each other
(`Library.decode_encode`).  Blanks count nowhere, and what is written after a value does not
continue it: it is a comma, a bracket or a blank.
-/

namespace Collage.Json

/-- Values that are told exactly: their numbers are integers, the fields of their objects stand in
the order of their names, and lists and objects are nested at most so deep. -/
inductive Exact : Nat → Json → Prop where
  | null {depth : Nat} : Exact depth .null
  | bool {depth : Nat} (b : Bool) : Exact depth (.bool b)
  | whole {depth : Nat} (w : Whole) : Exact depth (.number (.int w))
  | string {depth : Nat} (s : String) : Exact depth (.string s)
  | array {depth : Nat} {items : List Json} (each : ∀ item ∈ items, Exact depth item) :
      Exact (depth + 1) (.array items)
  | object {depth : Nat} {fields : List (String × Json)} (ordered : Sorted.Ordered fields)
      (each : ∀ field ∈ fields, Exact depth field.2) : Exact (depth + 1) (.object fields)

/-! ## Blanks -/

def isBlank (c : Char) : Bool := c = ' ' || c = '\n' || c = '\t' || c = '\r'

def Blank (text : List Char) : Prop := ∀ c ∈ text, isBlank c = true

instance (text : List Char) : Decidable (Blank text) :=
  decidable_of_iff (text.all isBlank = true) List.all_eq_true

/-- Layouts that put nothing but blanks between the parts of a value. -/
def Layout.Blank : Layout → Prop
  | .compact => True
  | .indented unit => Json.Blank unit

variable {layout : Layout} {front text rest : List Char} {depth fuel level outer : Nat}

theorem blank_newLine (plain : layout.Blank) (level : Nat) : Blank (newLine layout level) := by
  cases layout with
  | compact =>
    intro c member
    cases member
  | indented unit =>
    intro c member
    obtain rfl | member := List.mem_cons.1 member
    · rfl
    · obtain ⟨copy, copied, member⟩ := List.mem_flatten.1 member
      rw [List.eq_of_mem_replicate copied] at member
      exact plain c member

namespace Reader

theorem skipBlanks_append (blank : Blank front) (text : List Char) :
    skipBlanks (front ++ text) = skipBlanks text :=
  List.dropWhile_append_of_pos blank

theorem skipBlanks_cons {c : Char} (other : isBlank c = false) (rest : List Char) :
    skipBlanks (c :: rest) = c :: rest :=
  List.dropWhile_cons_of_neg (Bool.eq_false_iff.1 other)

theorem skipBlanks_skipBlanks (text : List Char) : skipBlanks (skipBlanks text) = skipBlanks text :=
  List.dropWhile_idempotent _ text

/-- Neither a blank nor another character that separates values continues a number. -/
theorem apart_of_blank (blank : Blank front) {c : Char}
    (plain : isDigit c = false ∧ c ≠ '.' ∧ c ≠ 'e' ∧ c ≠ 'E') (rest : List Char) :
    Apart (front ++ c :: rest) := by
  cases front with
  | nil => exact apart_cons rest plain
  | cons b front =>
    have separates : isBlank b = true := blank b List.mem_cons_self
    refine apart_cons _ ?_
    simp only [isBlank, Bool.or_eq_true, decide_eq_true_eq] at separates
    obtain ((rfl | rfl) | rfl) | rfl := separates <;> decide

theorem exists_valueWith (depth : Nat) : ∃ nested, value depth = valueWith nested := by
  cases depth <;> exact ⟨_, rfl⟩

theorem value_skipBlanks (depth : Nat) (text : List Char) :
    value depth (skipBlanks text) = value depth text := by
  obtain ⟨nested, same⟩ := exists_valueWith depth
  rw [same, valueWith, valueWith, skipBlanks_skipBlanks]

theorem value_append (blank : Blank front) (text : List Char) :
    value depth (front ++ text) = value depth text := by
  rw [← value_skipBlanks, skipBlanks_append blank, value_skipBlanks]

/-- What is read as a value begins with something, and not with the end of a list. -/
theorem exists_skipBlanks_of_value {result : Json × List Char}
    (read : value depth text = .ok result) :
    ∃ c more, skipBlanks text = c :: more ∧ c ≠ ']' ∧ value depth (c :: more) = .ok result := by
  -- At its end and in front of a bracket, a text has no value at any depth.
  rw [← value_skipBlanks] at read
  cases starts : skipBlanks text with
  | nil =>
    rw [starts] at read
    cases depth <;> cases read
  | cons c more =>
    rw [starts] at read
    refine ⟨c, more, rfl, ?_, read⟩
    rintro rfl
    cases depth <;> cases read

/-! ## Lists -/

theorem items_end (value : ValueReader) (blank : Blank front) (rest : List Char) :
    items value (fuel + 1) (front ++ ']' :: rest) = .ok ([], rest) := by
  simp only [items, skipBlanks_append blank, skipBlanks_cons (c := ']') rfl]

theorem items_comma {item : Json} (blank : Blank front)
    (read : value depth text = .ok (item, rest)) :
    items (value depth) (fuel + 1) (',' :: (front ++ text)) =
      (items (value depth) fuel rest).map fun (others, rest) => (item :: others, rest) := by
  obtain ⟨c, more, starts, other, read⟩ := exists_skipBlanks_of_value read
  simp only [items, skipBlanks_cons (c := ',') rfl, skipBlanks_append blank, starts]
  -- A bracket right behind the comma would end the list.
  split
  · next empty => cases empty
  · next ends =>
    cases ends
    exact absurd rfl other
  · simp only [read, bind, Except.bind, Except.map]

theorem listTail_of_value {item : Json} (blank : Blank front)
    (read : value depth text = .ok (item, rest)) :
    listTail (value depth) (front ++ text) =
      (items (value depth) (rest.length + 1) rest).map
        fun (others, rest) => (.array (item :: others), rest) := by
  obtain ⟨c, more, starts, other, read⟩ := exists_skipBlanks_of_value read
  simp only [listTail, skipBlanks_append blank, starts]
  split
  · next empty => cases empty
  · next ends =>
    cases ends
    exact absurd rfl other
  · simp only [read, bind, Except.bind, Except.map]

/-! ## Objects -/

theorem field_of_value {name : String} {content : Json} (blank : Blank front)
    (read : value depth text = .ok (content, rest)) :
    field (value depth) (name.toList.flatMap escapeChar ++ '"' :: ':' :: (front ++ text)) =
      .ok ((name, content), rest) := by
  rw [← value_append blank] at read
  simp only [field, stringTail_quote, bind, Except.bind, skipBlanks_cons (c := ':') rfl, read]

theorem fields_end (value : ValueReader) (blank : Blank front) (rest : List Char) :
    fields value (fuel + 1) (front ++ '}' :: rest) = .ok ([], rest) := by
  simp only [fields, skipBlanks_append blank, skipBlanks_cons (c := '}') rfl]

theorem fields_comma {value : ValueReader} {entry : String × Json} (blank : Blank front)
    (read : field value text = .ok (entry, rest)) :
    fields value (fuel + 1) (',' :: (front ++ '"' :: text)) =
      (fields value fuel rest).map fun (others, rest) => (entry :: others, rest) := by
  simp only [fields, skipBlanks_cons (c := ',') rfl, skipBlanks_append blank,
    skipBlanks_cons (c := '"') rfl, read, bind, Except.bind, Except.map]

theorem objectTail_of_field {value : ValueReader} {entry : String × Json} (blank : Blank front)
    (read : field value text = .ok (entry, rest)) :
    objectTail value (front ++ '"' :: text) =
      (fields value (rest.length + 1) rest).map
        fun (others, rest) => (.ofFields (entry :: others), rest) := by
  simp only [objectTail, skipBlanks_append blank, skipBlanks_cons (c := '"') rfl, read, bind,
    Except.bind, Except.map]

end Reader

/-! ## Written values -/

theorem exists_colon (layout : Layout) : ∃ gap, colon layout = ':' :: gap ∧ Blank gap := by
  cases layout with
  | compact => exact ⟨[], rfl, by simp [Blank]⟩
  | indented unit => exact ⟨[' '], rfl, by simp [Blank, isBlank]⟩

theorem quote_append (s rest : List Char) :
    quote s ++ rest = '"' :: (s.flatMap escapeChar ++ '"' :: rest) := by
  simp [quote]

/-- A value is read from what is written for it, up to what follows. -/
def Reads (layout : Layout) (depth : Nat) (v : Json) : Prop :=
  ∀ (level : Nat) (rest : List Char), Reader.Apart rest →
    Reader.value depth (write layout level v ++ rest) = .ok (v, rest)

theorem apart_writeItems (plain : layout.Blank) (items : List Json) (rest : List Char) :
    Reader.Apart (writeItems layout level items ++ (newLine layout outer ++ ']' :: rest)) := by
  cases items with
  | nil => exact Reader.apart_of_blank (blank_newLine plain outer) (by decide) rest
  | cons item items =>
    rw [writeItems]
    exact Reader.apart_cons _ (by decide)

theorem apart_writeFields (plain : layout.Blank) (fields : List (String × Json))
    (rest : List Char) :
    Reader.Apart (writeFields layout level fields ++ (newLine layout outer ++ '}' :: rest)) := by
  cases fields with
  | nil => exact Reader.apart_of_blank (blank_newLine plain outer) (by decide) rest
  | cons field fields =>
    rw [writeFields]
    exact Reader.apart_cons _ (by decide)

/-- A text that items are written in is longer than there are items. -/
theorem length_lt_writeItems (layout : Layout) (level : Nat) (items : List Json)
    (rest : List Char) :
    items.length < (writeItems layout level items ++ rest).length + 1 := by
  induction items with
  | nil => exact Nat.succ_pos _
  | cons item items ih =>
    simp only [writeItems, List.length_cons, List.length_append] at ih ⊢
    omega

theorem length_lt_writeFields (layout : Layout) (level : Nat) (fields : List (String × Json))
    (rest : List Char) :
    fields.length < (writeFields layout level fields ++ rest).length + 1 := by
  induction fields with
  | nil => exact Nat.succ_pos _
  | cons field fields ih =>
    simp only [writeFields, List.length_cons, List.length_append] at ih ⊢
    omega

theorem items_writeItems (plain : layout.Blank) {items : List Json}
    (each : ∀ item ∈ items, Reads layout depth item) (enough : items.length < fuel)
    (rest : List Char) :
    Reader.items (Reader.value depth) fuel
      (writeItems layout level items ++ (newLine layout outer ++ ']' :: rest)) =
        .ok (items, rest) := by
  induction items generalizing fuel with
  | nil =>
    cases fuel with
    | zero => cases enough
    | succ fuel => exact Reader.items_end _ (blank_newLine plain outer) rest
  | cons item items ih =>
    cases fuel with
    | zero => cases enough
    | succ fuel =>
      obtain ⟨first, each⟩ := List.forall_mem_cons.1 each
      have apart : Reader.Apart
          (writeItems layout level items ++ (newLine layout outer ++ ']' :: rest)) :=
        apart_writeItems plain items rest
      have read := first level _ apart
      simp only [writeItems, List.cons_append, List.append_assoc]
      rw [Reader.items_comma (blank_newLine plain level) read,
        ih each (Nat.lt_of_succ_lt_succ enough)]
      rfl

theorem field_write (name : String) {content : Json} (reads : Reads layout depth content)
    (level : Nat) (apart : Reader.Apart rest) :
    Reader.field (Reader.value depth)
      (name.toList.flatMap escapeChar ++
        '"' :: (colon layout ++ (write layout level content ++ rest))) =
        .ok ((name, content), rest) := by
  obtain ⟨gap, same, blank⟩ := exists_colon layout
  rw [same]
  exact Reader.field_of_value blank (reads level rest apart)

theorem fields_writeFields (plain : layout.Blank) {fields : List (String × Json)}
    (each : ∀ field ∈ fields, Reads layout depth field.2) (enough : fields.length < fuel)
    (rest : List Char) :
    Reader.fields (Reader.value depth) fuel
      (writeFields layout level fields ++ (newLine layout outer ++ '}' :: rest)) =
        .ok (fields, rest) := by
  induction fields generalizing fuel with
  | nil =>
    cases fuel with
    | zero => cases enough
    | succ fuel => exact Reader.fields_end _ (blank_newLine plain outer) rest
  | cons field fields ih =>
    obtain ⟨name, content⟩ := field
    cases fuel with
    | zero => cases enough
    | succ fuel =>
      obtain ⟨first, each⟩ := List.forall_mem_cons.1 each
      have apart : Reader.Apart
          (writeFields layout level fields ++ (newLine layout outer ++ '}' :: rest)) :=
        apart_writeFields plain fields rest
      have read := field_write name first level apart
      simp only [writeFields, List.cons_append, List.append_assoc, quote_append]
      rw [Reader.fields_comma (blank_newLine plain level) read,
        ih each (Nat.lt_of_succ_lt_succ enough)]
      rfl

/-- An object of fields in order has these fields. -/
theorem ofFields_of_ordered {fields : List (String × Json)} (ordered : Sorted.Ordered fields) :
    ofFields fields = .object fields := by
  have ordered : Sorted.Ordered ([] ++ fields) := ordered
  exact congrArg object (Sorted.foldl_insert_of_ordered ordered)

/-- A list is read as it was written if its items are. -/
theorem reads_list (plain : layout.Blank) {items : List Json}
    (each : ∀ item ∈ items, Reads layout depth item) :
    Reads layout (depth + 1) (.array items) := by
  intro level rest _
  cases items with
  | nil => rfl
  | cons item items =>
    obtain ⟨first, others⟩ := List.forall_mem_cons.1 each
    have after : Reader.Apart
        (writeItems layout (level + 1) items ++ (newLine layout level ++ ']' :: rest)) :=
      apart_writeItems plain items rest
    have read := Reader.listTail_of_value (blank_newLine plain (level + 1))
      (first (level + 1) _ after)
    rw [items_writeItems plain others (length_lt_writeItems layout _ items _)] at read
    simp only [write, List.cons_append, List.append_assoc, List.nil_append]
    exact read

/-- An object is read as it was written if its fields are: they stand in order already. -/
theorem reads_object (plain : layout.Blank) {fields : List (String × Json)}
    (ordered : Sorted.Ordered fields) (each : ∀ field ∈ fields, Reads layout depth field.2) :
    Reads layout (depth + 1) (.object fields) := by
  intro level rest _
  cases fields with
  | nil => rfl
  | cons field fields =>
    obtain ⟨name, content⟩ := field
    obtain ⟨first, others⟩ := List.forall_mem_cons.1 each
    have after : Reader.Apart
        (writeFields layout (level + 1) fields ++ (newLine layout level ++ '}' :: rest)) :=
      apart_writeFields plain fields rest
    have read := Reader.objectTail_of_field (blank_newLine plain (level + 1))
      (field_write name first (level + 1) after)
    rw [fields_writeFields plain others (length_lt_writeFields layout _ fields _)] at read
    simp only [write, List.cons_append, List.append_assoc, List.nil_append, quote_append]
    rw [← ofFields_of_ordered ordered]
    exact read

/-- Each exact value is read as it was written, by induction on the value: what a list or an object
holds is read with the depth below. -/
theorem Exact.reads (plain : layout.Blank) {v : Json} (exact : Exact depth v) :
    Reads layout depth v := by
  induction exact with
  | @null depth =>
    intro level rest apart
    obtain ⟨nested, same⟩ := Reader.exists_valueWith depth
    rw [same]
    rfl
  | @bool depth b =>
    intro level rest apart
    obtain ⟨nested, same⟩ := Reader.exists_valueWith depth
    rw [same]
    cases b <;> rfl
  | @whole depth w =>
    intro level rest apart
    obtain ⟨nested, same⟩ := Reader.exists_valueWith depth
    rw [same]
    exact Reader.valueWith_whole nested w apart
  | @string depth s =>
    intro level rest apart
    obtain ⟨nested, same⟩ := Reader.exists_valueWith depth
    rw [same, write, quote_append]
    exact Reader.valueWith_quote nested s rest
  | array each ih => exact reads_list plain ih
  | object ordered each ih => exact reads_object plain ordered ih

/-- What is written for an exact value, on one line or with an indentation of blanks, is a text for
that value. -/
theorem readWithin_print (plain : layout.Blank) {v : Json} (exact : Exact depth v) :
    readWithin depth (v.print layout) = .ok v := by
  have read := exact.reads plain 0 [] Reader.apart_nil
  rw [List.append_nil] at read
  have whole : Reader.document depth (write layout 0 v) = .ok v := by
    simp only [Reader.document, read, bind, Except.bind]
    rfl
  rw [readWithin, print, String.toList_ofList, whole]

end Collage.Json

namespace Collage.Library

/-- Arguments that give no indentation, or one of blanks. -/
def IndentsBlank (args : Arguments) : Prop :=
  ∀ indent, args.lookup "indent" = some indent →
    ∃ unit : String, indent = .string unit ∧ Json.Blank unit.toList

/-- A value without doubles, nested no deeper than can be read, is decoded from what it is encoded
as, on one line or with an indentation of blanks. -/
theorem decode_encode {value : Json} (exact : Json.Exact Json.depthLimit value) {args : Arguments}
    (blank : IndentsBlank args) (others : Arguments) :
    ∃ text, encode value args = .ok (.string text) ∧
      decode (.string text) others = .ok value := by
  have decoded (layout : Json.Layout) (plain : layout.Blank) :
      decode (.string (value.print layout)) others = .ok value := by
    have read : Json.read (value.print layout) = .ok value := Json.readWithin_print plain exact
    simp only [decode, textOf, bind, Except.bind, read]
  cases given : args.lookup "indent" with
  | none => exact ⟨value.compact, by rw [encode, given], decoded .compact trivial⟩
  | some indent =>
    obtain ⟨unit, rfl, plain⟩ := blank indent given
    exact ⟨value.print (.indented unit.toList), by rw [encode, given],
      decoded (.indented unit.toList) plain⟩

theorem decode_encode_nested :
    let value : Json := .object
      [("\u0001\"", .string "\x0c\\ü\n"),
        ("limits", .array
          [.number (.int ⟨-9223372036854775808, by decide, by decide⟩),
            .number (.int ⟨18446744073709551615, by decide, by decide⟩), .array []])]
    Json.Exact Json.depthLimit value ∧ IndentsBlank [("indent", .string " \t")] ∧
      ∃ text, encode value [("indent", .string " \t")] = .ok (.string text) ∧
        decode (.string text) [] = .ok value := by
  intro value
  have exact : Json.Exact Json.depthLimit value := by
    refine .object (by decide +kernel)
      (List.forall_mem_cons.2 ⟨.string _, List.forall_mem_singleton.2 (.array ?_)⟩)
    refine List.forall_mem_cons.2
      ⟨.whole _, List.forall_mem_cons.2 ⟨.whole _, List.forall_mem_singleton.2 (.array ?_)⟩⟩
    exact List.forall_mem_nil _
  have blank : IndentsBlank [("indent", .string " \t")] := by
    rintro _ ⟨⟩
    exact ⟨" \t", rfl, by decide⟩
  exact ⟨exact, blank, decode_encode exact blank []⟩

end Collage.Library
