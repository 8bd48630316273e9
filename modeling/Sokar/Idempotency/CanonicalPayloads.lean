import Sokar.Outbox.ReplayedEvents

/-!
# Canonical payloads

`canonicalize` of `idempotency.service`, the text that is hashed to tell whether a key comes with
the payload of the first request.
-/

namespace Sokar

open OrderedData

/-- An object has its keys as `Object.keys` lists them and what it holds under each, none for
`undefined`. -/
inductive PayloadValue where
  | scalar (value : JsonScalar)
  | array (elements : List PayloadValue)
  | object (keys : List String) (distinct : keys.Nodup) (held : String → Option PayloadValue)

namespace PayloadValue

variable (keys : List String) (held : String → Option PayloadValue)

def definedKeys : List String :=
  keys.filter fun key => (held key).isSome

/-- `Array.prototype.sort`. -/
def utf16Sort (texts : List String) : List String :=
  texts.insertionSort fun first second => utf16Units first ≤ utf16Units second

mutual

def canonicalize : PayloadValue → List Char
  | .scalar value => value.text
  | .array elements => '[' :: [','].intercalate (canonicalElements elements) ++ [']']
  | .object keys _ held =>
    '{' :: [','].intercalate ((utf16Sort (definedKeys keys held)).map fun key =>
      stringText key ++ ':' :: canonicalHeld (held key)) ++ ['}']

def canonicalElements : List PayloadValue → List (List Char)
  | [] => []
  | element :: elements => canonicalize element :: canonicalElements elements

def canonicalHeld : Option PayloadValue → List Char
  | none => JsonScalar.null.text
  | some value => canonicalize value

end

mutual

/-- Equal but for the order of keys and the keys with `undefined`. -/
inductive Same : PayloadValue → PayloadValue → Prop where
  | scalar (value : JsonScalar) : Same (.scalar value) (.scalar value)
  | array {elements others : List PayloadValue} :
      SameElements elements others → Same (.array elements) (.array others)
  | object {keys keys' : List String} {distinct : keys.Nodup} {distinct' : keys'.Nodup}
      {held held' : String → Option PayloadValue} :
      (∀ key, key ∈ definedKeys keys held ↔ key ∈ definedKeys keys' held') →
      (∀ key ∈ definedKeys keys held,
        ∀ value ∈ held key, ∀ other ∈ held' key, Same value other) →
        Same (.object keys distinct held) (.object keys' distinct' held')

inductive SameElements : List PayloadValue → List PayloadValue → Prop where
  | nil : SameElements [] []
  | cons {element other : PayloadValue} {elements others : List PayloadValue} :
      Same element other → SameElements elements others →
        SameElements (element :: elements) (other :: others)

end

mutual

def normal : PayloadValue → JsonData
  | .scalar value => .scalar value
  | .array elements => .array (normalElements elements)
  | .object keys _ held =>
    .object ((utf16Sort (definedKeys keys held)).map fun key => (key, normalHeld (held key)))

def normalElements : List PayloadValue → List JsonData
  | [] => []
  | element :: elements => normal element :: normalElements elements

def normalHeld : Option PayloadValue → JsonData
  | none => .scalar .null
  | some value => normal value

end

theorem intercalate_cons (first : List Char) (others : List (List Char)) :
    [','].intercalate (first :: others) = first ++ others.flatMap fun other => ',' :: other := by
  induction others generalizing first with
  | nil => simp
  | cons other others ih => simp [ih]

theorem elementsText_eq (elements : List JsonData) : jsonScript.elementsText elements =
      [','].intercalate (elements.map jsonScript.text) ++ [']'] := by
  have more (elements : List JsonData) : jsonScript.moreElements elements =
      (elements.map jsonScript.text).flatMap (fun other => ',' :: other) ++ [']'] := by
    induction elements with
    | nil => rfl
    | cons element elements ih =>
      rw [Script.moreElements, ih, List.map_cons, List.flatMap_cons, List.append_assoc]
      rfl
  cases elements with
  | nil => rfl
  | cons element elements =>
    rw [Script.elementsText, more, List.map_cons, intercalate_cons, List.append_assoc]

theorem membersText_eq (members : List (String × JsonData)) :
    jsonScript.membersText members = [','].intercalate (members.map fun member =>
      stringText member.1 ++ ':' :: jsonScript.text member.2) ++ ['}'] := by
  have more (members : List (String × JsonData)) : jsonScript.moreMembers members =
      (members.map fun member => stringText member.1 ++ ':' :: jsonScript.text member.2).flatMap
        (fun other => ',' :: other) ++ ['}'] := by
    induction members with
    | nil => rfl
    | cons member members ih =>
      rw [Script.moreMembers, ih, List.map_cons, List.flatMap_cons, List.append_assoc,
        List.cons_append, List.append_assoc]
      rfl
  cases members with
  | nil => rfl
  | cons member members =>
    rw [Script.membersText, more, List.map_cons, intercalate_cons, List.append_assoc]
    simp [jsonScript]

mutual

theorem canonicalize_eq : (value : PayloadValue) →
    canonicalize value = jsonScript.text (normal value)
  | .scalar value => by simp [canonicalize, normal, Script.text, jsonScript]
  | .array elements => by
      rw [canonicalize, normal, Script.text, elementsText_eq, canonicalElements_eq elements]
      rfl
  | .object keys _ held => by
      rw [canonicalize, normal, Script.text, membersText_eq, List.map_map]
      simp only [canonicalHeld_eq (held _)]
      rfl

theorem canonicalElements_eq : (elements : List PayloadValue) →
    canonicalElements elements = (normalElements elements).map jsonScript.text
  | [] => rfl
  | element :: elements => by
      rw [canonicalElements, normalElements, List.map_cons, canonicalize_eq element,
        canonicalElements_eq elements]

theorem canonicalHeld_eq : (held : Option PayloadValue) →
    canonicalHeld held = jsonScript.text (normalHeld held)
  | none => rfl
  | some value => canonicalize_eq value

end

theorem utf16Units_injective : Function.Injective utf16Units := by
  intro first second same
  rw [← String.ofList_toList (s := first), ← decodeUnits_charUnits first.toList]
  rw [← String.ofList_toList (s := second), ← decodeUnits_charUnits second.toList]
  exact congrArg (fun units => String.ofList (decodeUnits units)) same

theorem perm_utf16Sort (texts : List String) : (utf16Sort texts).Perm texts :=
  List.perm_insertionSort _ texts

/-- Sorting forgets the order of keys. -/
theorem utf16Sort_eq_iff {texts others : List String} :
    utf16Sort texts = utf16Sort others ↔ texts.Perm others := by
  have transitive : IsTrans String fun first second => utf16Units first ≤ utf16Units second :=
    ⟨fun _ _ _ => le_trans⟩
  have total : Std.Total fun first second => utf16Units first ≤ utf16Units second :=
    ⟨fun _ _ => le_total _ _⟩
  refine ⟨fun same => ?_, fun perm => ?_⟩
  · exact (perm_utf16Sort texts).symm.trans (same ▸ perm_utf16Sort others)
  · refine List.Perm.eq_of_pairwise (fun _ _ _ _ before after => ?_)
      (List.pairwise_insertionSort _ texts) (List.pairwise_insertionSort _ others) ?_
    · exact utf16Units_injective (le_antisymm before after)
    · exact ((perm_utf16Sort texts).trans perm).trans (perm_utf16Sort others).symm

mutual

theorem same_of_normal : (value other : PayloadValue) → normal value = normal other →
    Same value other
  | .scalar value, .scalar other, same => by
      cases same
      exact .scalar value
  | .array elements, .array others, same =>
    .array (sameElements_of_normal elements others (OrderedData.Data.array.inj same))
  | .object keys distinct held, .object keys' distinct' held', same => by
      have members := OrderedData.Data.object.inj same
      have sorted := congrArg (List.map Prod.fst) members
      simp only [List.map_map, Function.comp_def, List.map_id'] at sorted
      refine .object (fun key => (utf16Sort_eq_iff.1 sorted).mem_iff) fun key isKey => ?_
      have isMember := List.mem_map_of_mem (f := fun key => (key, normalHeld (held key)))
        ((perm_utf16Sort _).mem_iff.2 isKey)
      rw [members] at isMember
      obtain ⟨other, -, sameMember⟩ := List.mem_map.1 isMember
      obtain ⟨rfl, sameHeld⟩ := Prod.mk.inj sameMember
      exact sameHeld_of_normal (held other) (held' other) sameHeld.symm
  | .scalar _, .array _, same | .scalar _, .object .., same | .array _, .scalar _, same
  | .array _, .object .., same | .object .., .scalar _, same | .object .., .array _, same =>
    nomatch same
termination_by structural value => value

theorem sameElements_of_normal : (elements others : List PayloadValue) →
    normalElements elements = normalElements others → SameElements elements others
  | [], [], _ => .nil
  | element :: elements, other :: others, same =>
    .cons (same_of_normal element other (List.cons.inj same).1)
      (sameElements_of_normal elements others (List.cons.inj same).2)
  | [], _ :: _, same | _ :: _, [], same => nomatch same
termination_by structural elements => elements

theorem sameHeld_of_normal : (held held' : Option PayloadValue) →
    normalHeld held = normalHeld held' → ∀ value ∈ held, ∀ other ∈ held', Same value other
  | some value, some other, same, _, rfl, _, rfl => same_of_normal value other same
termination_by structural held => held

end

mutual

theorem Same.normal_eq : {value other : PayloadValue} → Same value other →
    normal value = normal other
  | _, _, .scalar _ => rfl
  | _, _, .array elements => congrArg OrderedData.Data.array elements.normal_eq
  | .object keys distinct held, .object keys' distinct' held', .object defined values => by
      have perm : (definedKeys keys held).Perm (definedKeys keys' held') :=
        (List.perm_ext_iff_of_nodup (distinct.filter _) (distinct'.filter _)).2 defined
      rw [normal, normal, utf16Sort_eq_iff.2 perm]
      refine congrArg OrderedData.Data.object (List.map_congr_left fun key isSorted => ?_)
      have isKey := (perm_utf16Sort _).mem_iff.1 isSorted
      obtain ⟨value, holds⟩ := Option.isSome_iff_exists.1
        (List.mem_filter.1 ((defined key).2 isKey)).2
      obtain ⟨other, holds'⟩ := Option.isSome_iff_exists.1 (List.mem_filter.1 isKey).2
      rw [holds, holds', normalHeld, normalHeld,
        (values key ((defined key).2 isKey) value holds other holds').normal_eq]

theorem SameElements.normal_eq : {elements others : List PayloadValue} →
    SameElements elements others → normalElements elements = normalElements others
  | _, _, .nil => rfl
  | _, _, .cons element elements => by
      rw [normalElements, normalElements, element.normal_eq, elements.normal_eq]

end

/-- Two texts are one if and only if the values are the same. -/
theorem canonicalize_eq_iff (value other : PayloadValue) :
    canonicalize value = canonicalize other ↔ Same value other := by
  rw [canonicalize_eq, canonicalize_eq, jsonScript_readable.text_injective.eq_iff]
  exact ⟨same_of_normal value other, Same.normal_eq⟩

end PayloadValue

end Sokar
