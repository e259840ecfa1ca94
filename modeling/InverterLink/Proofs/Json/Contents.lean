import InverterLink.Format
import InverterLink.Proofs.Json.Writing

/-!
# What a content says in JSON

A content that is rendered as JSON is one object, with the outcome first and then the message of a
status, the items of a list, or the fields of a table. A message of any characters stays within its
quotation marks, and a reader of JSON finds it as it was. The fields of a table are put into an
object one by one, in the place of an earlier field if that has the same key, so all of them are
found, in their order, if their keys are distinct.

## Main definitions

* `Value.tree`, `Field.tree`, `Content.tree`: what values, fields and contents say.
* `Content.HasDistinctKeys`: no two fields of a table have one key.
* `Json.Says`: a text says what a tree does, and nothing else.

## Main statements

* `fieldsObject_of_nodup`: fields with distinct keys are found in their order.
* `Content.says_render`: what a content says in both JSON formats.
-/

namespace InverterLink

/-! ### Fields in their order -/

/-- A field with a new key is put behind the others. -/
theorem Json.put_of_notMem {key : List Char} {value : Json} {fields : List (List Char × Json)}
    (h : key ∉ fields.map Prod.fst) : put key value fields = fields ++ [(key, value)] := by
  induction fields with
  | nil => rfl
  | cons field fields ih =>
    rw [List.map_cons, List.mem_cons, not_or] at h
    rw [put, if_neg (Ne.symm h.1), ih h.2, List.cons_append]

variable {fields : List Field} {simple : Bool}

/-- Fields with new keys are put behind those that are there. -/
theorem foldl_put {object : List (List Char × Json)}
    (h : (object.map Prod.fst ++ fields.map Field.key).Nodup) :
    fields.foldl (fun object field => Json.put field.key (field.toJson simple) object) object =
      object ++ fields.map fun field => (field.key, field.toJson simple) := by
  induction fields generalizing object with
  | nil => exact (List.append_nil object).symm
  | cons field fields ih =>
    have hnew : field.key ∉ object.map Prod.fst := fun hmem =>
      List.disjoint_of_nodup_append h hmem List.mem_cons_self
    have hrest : ((object ++ [(field.key, field.toJson simple)]).map Prod.fst ++
        fields.map Field.key).Nodup := by
      rwa [List.map_append, List.append_assoc]
    rw [List.foldl_cons, Json.put_of_notMem hnew, ih hrest, List.append_assoc, List.map_cons,
      List.singleton_append]

/-- **Fields with distinct keys are found in their order**, one for each. -/
theorem fieldsObject_of_nodup (h : (fields.map Field.key).Nodup) :
    fieldsObject simple fields =
      .object (fields.map fun field => (field.key, field.toJson simple)) := by
  have hnew : (([] : List (List Char × Json)).map Prod.fst ++ fields.map Field.key).Nodup := h
  rw [fieldsObject, foldl_put hnew, List.nil_append]

/-! ### Values and fields -/

namespace Value

/-- What a value says: its number as it is written, its text, or the label of an enumeration and, in
the simple form, its ordinal. -/
def tree (simple : Bool) : Value → Json.Tree
  | unsigned n => .number (Digits.write n)
  | scaled reading scale => .number (Decimal.scientific (quotient reading scale))
  | bool b => .bool b
  | text cs => .text cs
  | labelled ordinal label => if simple then .number (Digits.write ordinal) else .text label

theorem tree_toJson (value : Value) : (value.toJson simple).tree = value.tree simple := by
  cases value with
  | labelled => cases simple <;> rfl
  | unsigned | scaled | bool | text => rfl

end Value

namespace Field

/-- What a field says: its value, with its unit beside it except in the simple form. -/
def tree (simple : Bool) (field : Field) : Json.Tree :=
  match simple, field.unit? with
  | false, some unit =>
    .object [("value".toList, field.value.tree false), ("unit".toList, .text unit.symbol)]
  | _, _ => field.value.tree simple

theorem tree_toJson (field : Field) : (field.toJson simple).tree = field.tree simple := by
  obtain ⟨key, title, value, unit?⟩ := field
  cases simple with
  | true => exact value.tree_toJson
  | false =>
    cases unit? with
    | none => exact value.tree_toJson
    | some unit =>
      have hvalue : (value.toJson false).tree = value.tree false := value.tree_toJson
      exact congrArg
        (fun shown =>
          Json.Tree.object [("value".toList, shown), ("unit".toList, .text unit.symbol)]) hvalue

end Field

/-! ### Contents -/

/-- A text without control characters says what a tree does: a reader of JSON finds that tree in it,
and no other. -/
structure Json.Says (cs : List Char) (tree : Json.Tree) : Prop where
  isPrinted : Json.IsPrinted cs
  denotes_iff : ∀ tree', Json.Denotes cs tree' ↔ tree' = tree

namespace Content

/-- No two fields of a table have one key. -/
def HasDistinctKeys : Content → Prop
  | table fields => (fields.map Field.key).Nodup
  | _ => True

/-- What a content says: the outcome, and then the message of a status unless it is empty, or the
data of a list or a table. -/
def tree (simple : Bool) : Content → Json.Tree
  | table fields =>
    .object [("result".toList, .text "ok".toList),
      ("data".toList, .object (fields.map fun field => (field.key, field.tree simple)))]
  | list values =>
    .object [("result".toList, .text "ok".toList),
      ("data".toList, .array (values.map (Value.tree simple)))]
  | status ok message =>
    .object (("result".toList, .text (outcome ok)) ::
      if message = [] then [] else [("message".toList, .text message)])

variable {content : Content}

theorem HasDistinctKeys.tree_toJson (h : content.HasDistinctKeys) :
    (content.toJson simple).tree = content.tree simple := by
  cases content with
  | table fields =>
    have hfields : (fieldsObject simple fields).tree =
        .object (fields.map fun field => (field.key, field.tree simple)) := by
      rw [fieldsObject_of_nodup h, Json.tree, Json.membersOfFields_eq_map, List.map_map]
      exact congrArg Json.Tree.object
        (List.map_congr_left fun field _ => congrArg (Prod.mk field.key) field.tree_toJson)
    rw [toJson, tree, Json.tree, Json.membersOfFields_eq_map, ← hfields]
    rfl
  | list values =>
    have hvalues :
        (values.map (Value.toJson simple)).map Json.tree = values.map (Value.tree simple) := by
      rw [List.map_map]
      exact List.map_congr_left fun value _ => value.tree_toJson
    rw [toJson, tree, Json.tree, Json.membersOfFields_eq_map, ← hvalues, ← Json.treesOfItems_eq_map]
    rfl
  | status ok message => cases message <;> rfl

/-- **What a content says in JSON.** In both formats the rendered text holds no control character,
and a reader of JSON finds one object in it: the outcome with the message of a status as it was, or
with the fields of a table in their order, if their keys are distinct. -/
theorem says_render (h : content.HasDistinctKeys) :
    Json.Says (content.render .json) (content.tree false) ∧
      Json.Says (content.render .simpleJson) (content.tree true) := by
  have hwritten (simple : Bool) :
      Json.Says (content.toJson simple).write (content.tree simple) := by
    refine ⟨Json.isPrinted_write _, fun tree' => ?_⟩
    rw [← h.tree_toJson]
    exact Json.denotes_write_iff
  exact ⟨hwritten false, hwritten true⟩

/-- A text with a quotation mark, a backslash, two control characters and a replacement character in
it, and a reading with a unit. -/
theorem says_render_escaped :
    let note : Field :=
      ⟨"note".toList, "Note".toList, .text ['"', '\\', '\n', '\x01', '\ufffd'], none⟩
    let voltage : Field := ⟨"voltage".toList, "Voltage".toList, .unsigned 230, some .volt⟩
    (table [note, voltage]).HasDistinctKeys ∧
      Json.Says ((table [note, voltage]).render .json) (.object [
        ("result".toList, .text "ok".toList),
        ("data".toList, .object [("note".toList, .text ['"', '\\', '\n', '\x01', '\ufffd']),
          ("voltage".toList, .object [("value".toList, .number ['2', '3', '0']),
            ("unit".toList, .text ['V'])])])]) ∧
      Json.Says ((table [note, voltage]).render .simpleJson) (.object [
        ("result".toList, .text "ok".toList),
        ("data".toList, .object [("note".toList, .text ['"', '\\', '\n', '\x01', '\ufffd']),
          ("voltage".toList, .number ['2', '3', '0'])])]) := by
  intro note voltage
  have hkeys : (table [note, voltage]).HasDistinctKeys :=
    show ["note".toList, "voltage".toList].Nodup by decide
  exact ⟨hkeys, says_render hkeys⟩

end Content

end InverterLink
