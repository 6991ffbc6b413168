import FunnelDispenser.Library.CMemory

/-!
# Header collections

`HTTPHeaders` keeps the fields of an answer in a `Map`, two parallel arrays
that only grow at their end.  A repeated name adds to the value it has.
-/

namespace FunnelDispenser.Transport

open CMemory

/-- The keys and values of a `MAP_HANDLE`. -/
abbrev PropertyMap := List (Bytes × Bytes)

def getValueFromKey (key : Bytes) (map : PropertyMap) : Option Bytes :=
  (map.find? fun entry => entry.1 = key).map Prod.snd

/-- The pair behind the filter of `Map_AddOrUpdate`: it replaces the first
value of its key, or comes last. -/
def addOrUpdate (key value : Bytes) : PropertyMap → PropertyMap
  | [] => [(key, value)]
  | entry :: rest =>
      if entry.1 = key then
        (key, value) :: rest
      else
        entry :: addOrUpdate key value rest

theorem getValueFromKey_eq_none {key : Bytes} {map : PropertyMap}
    (fresh : key ∉ map.map Prod.fst) : getValueFromKey key map = none := by
  rw [getValueFromKey, Option.map_eq_none_iff, List.find?_eq_none]
  intro entry member same
  rw [decide_eq_true_eq] at same
  exact fresh (same ▸ List.mem_map_of_mem member)

theorem addOrUpdate_of_fresh {key : Bytes} {map : PropertyMap}
    (fresh : key ∉ map.map Prod.fst) (value : Bytes) :
    addOrUpdate key value map = map ++ [(key, value)] := by
  induction map with
  | nil => rfl
  | cons entry rest inductionHypothesis =>
      rw [List.map_cons, List.mem_cons, not_or] at fresh
      rw [addOrUpdate, if_neg (Ne.symm fresh.1), inductionHypothesis fresh.2]
      rfl

def nameByte (byte : UInt8) : Bool :=
  33 ≤ byte && byte ≤ 126 && byte ≠ 58

def isLws (byte : UInt8) : Bool :=
  byte = 32 || byte = 9 || byte = 13 || byte = 10

/-- `HTTPHeaders_AddHeaderNameValuePair`; an invalid name changes nothing. -/
def addHeaderNameValuePair (name value : Bytes) (headers : PropertyMap) :
    PropertyMap :=
  if name.all nameByte then
    let stripped := value.dropWhile isLws
    match getValueFromKey name headers with
    | some existing =>
        addOrUpdate name (existing ++ bytesOf ", " ++ stripped) headers
    | none => addOrUpdate name stripped headers
  else
    headers

/-- `HTTPHeaders_GetHeader` of one entry. -/
def headerText (header : Bytes × Bytes) : Bytes :=
  header.1 ++ bytesOf ": " ++ header.2

/-- The fields of an answer in the order they come in. -/
def collectHeaders (fields : List (Bytes × Bytes)) : PropertyMap :=
  fields.foldl
    (fun headers field => addHeaderNameValuePair field.1 field.2 headers) []

/-- Fields that a collection keeps as they are. -/
structure PlainFields (fields : List (Bytes × Bytes)) : Prop where
  names : ∀ field ∈ fields, field.1.all nameByte = true
  values : ∀ field ∈ fields, ∀ byte, field.2.head? = some byte →
    isLws byte = false
  distinct : (fields.map Prod.fst).Nodup

theorem dropWhile_isLws {value : Bytes}
    (solid : ∀ byte, value.head? = some byte → isLws byte = false) :
    (32 :: value).dropWhile isLws = value := by
  cases value with
  | nil => rfl
  | cons byte rest =>
      have first := solid byte rfl
      rw [List.dropWhile_cons_of_pos rfl,
        List.dropWhile_cons_of_neg (by simp [first])]

theorem collectHeaders_eq {fields : List (Bytes × Bytes)}
    (plain : PlainFields fields) :
    collectHeaders (fields.map fun field => (field.1, 32 :: field.2)) =
      fields := by
  induction fields using List.reverseRecOn with
  | nil => rfl
  | append_singleton fields field inductionHypothesis =>
      have earlier : PlainFields fields :=
        { names := fun other member =>
            plain.names other (List.mem_append_left _ member)
          values := fun other member =>
            plain.values other (List.mem_append_left _ member)
          distinct := by
            have distinct := plain.distinct
            rw [List.map_append, List.nodup_append] at distinct
            exact distinct.1 }
      have last : field ∈ fields ++ [field] := by simp
      have fresh : field.1 ∉ fields.map Prod.fst := by
        have distinct := plain.distinct
        rw [List.map_append, List.nodup_append] at distinct
        exact fun member =>
          distinct.2.2 _ member _ (by simp) rfl
      have collected := inductionHypothesis earlier
      rw [collectHeaders] at collected
      rw [collectHeaders, List.map_append, List.foldl_append, collected]
      simp only [List.map_cons, List.map_nil, List.foldl_cons,
        List.foldl_nil, addHeaderNameValuePair, plain.names field last,
        if_true, getValueFromKey_eq_none fresh,
        dropWhile_isLws (plain.values field last)]
      exact addOrUpdate_of_fresh fresh field.2

end FunnelDispenser.Transport
