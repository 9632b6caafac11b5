import Myngrok.Go.Map
import Myngrok.Go.Text

namespace golang.http

/-- HTTP header fields, `map[string][]string`: repeated fields keep their order. -/
abbrev Header := Map GoString (List GoString)

/-- A byte that may stand in a header field name (RFC 7230 token). -/
def validHeaderFieldByte (b : UInt8) : Bool :=
  let x := b.toNat
  (0x30 ≤ x && x ≤ 0x39) || (0x41 ≤ x && x ≤ 0x5A) || (0x61 ≤ x && x ≤ 0x7A) ||
    x ∈ [0x21, 0x23, 0x24, 0x25, 0x26, 0x27, 0x2A, 0x2B, 0x2D, 0x2E, 0x5E, 0x5F, 0x60, 0x7C, 0x7E]

/-- The names that net/http accepts. -/
def validHeaderFieldName (name : GoString) : Bool := !name.isEmpty && name.all validHeaderFieldByte

/-- The values that net/http's server accepts: control characters are refused, bytes above ASCII are not. -/
def validHeaderFieldValue (value : GoString) : Bool :=
  value.all fun b => (0x20 ≤ b.toNat && b.toNat ≠ 0x7F) || b.toNat = 0x09

/-- Upper case at the start and after a hyphen, lower case elsewhere. -/
def canonicalBytes (upper : Bool) : Bytes → Bytes
  | [] => []
  | b :: rest =>
    let x := b.toNat
    let c := if upper && 0x61 ≤ x && x ≤ 0x7A then UInt8.ofNat (x - 0x20)
      else if !upper && 0x41 ≤ x && x ≤ 0x5A then UInt8.ofNat (x + 0x20)
      else b
    c :: canonicalBytes (c = 0x2D) rest

/-- `http.CanonicalHeaderKey`: a name with a byte that no field name may contain is left as it is. -/
def canonicalHeaderKey (name : GoString) : GoString :=
  if name.all validHeaderFieldByte then canonicalBytes true name else name

theorem toLower_canonicalBytes (upper : Bool) (name : Bytes) :
    strings.toLower (canonicalBytes upper name) = strings.toLower name := by
  induction name generalizing upper with
  | nil => rfl
  | cons b rest ih =>
    rw [canonicalBytes]
    refine congr_arg₂ List.cons ?_ (ih _)
    obtain ⟨⟨n⟩⟩ := b
    revert upper n
    decide +kernel

/-- The canonical form changes the case of letters only. -/
theorem toLower_canonicalHeaderKey (name : GoString) :
    strings.toLower (canonicalHeaderKey name) = strings.toLower name := by
  rw [canonicalHeaderKey]
  split
  · exact toLower_canonicalBytes true name
  · rfl

theorem all_valid_toLower (name : Bytes) :
    (strings.toLower name).all validHeaderFieldByte = name.all validHeaderFieldByte := by
  rw [strings.toLower, List.all_map]
  congr 1
  funext ⟨⟨n⟩⟩
  revert n
  decide +kernel

theorem canonicalBytes_toLower (upper : Bool) (name : Bytes) :
    canonicalBytes upper (strings.toLower name) = canonicalBytes upper name := by
  induction name generalizing upper with
  | nil => rfl
  | cons b rest ih =>
    have hbyte : ∀ (upper : Bool) (b : UInt8), (canonicalBytes upper (strings.toLower [b])).head? =
        (canonicalBytes upper [b]).head? := by
      rintro upper ⟨⟨n⟩⟩
      revert upper n
      decide +kernel
    have hhead := Option.some.inj (hbyte upper b)
    rw [strings.toLower, List.map_cons, ← strings.toLower, canonicalBytes, ih]
    exact congrArg (fun c => c :: canonicalBytes (c = 0x2D) rest) hhead

variable {name query : GoString}

/-- Two spellings of a field name have one canonical form. -/
theorem canonicalHeaderKey_eq_of_toLower {other : GoString} (hvalid : name.all validHeaderFieldByte = true)
    (hfold : strings.toLower other = strings.toLower name) : canonicalHeaderKey other = canonicalHeaderKey name := by
  have hother : other.all validHeaderFieldByte = true := by
    rw [← all_valid_toLower, hfold, all_valid_toLower, hvalid]
  rw [canonicalHeaderKey, if_pos hother, canonicalHeaderKey, if_pos hvalid, ← canonicalBytes_toLower, hfold,
    canonicalBytes_toLower]

/-- `Header.Values`. -/
def Header.values (h : Header) (name : GoString) : List GoString :=
  (h.lookup (canonicalHeaderKey name)).getD []

/-- `Header.Get`: the first value, empty if there is none. -/
def Header.get (h : Header) (name : GoString) : GoString := (h.values name).headD []

/-- `Header.Del`. -/
def Header.del (h : Header) (name : GoString) : Header := h.erase (canonicalHeaderKey name)

/-- `Header.Set`. -/
def Header.set (h : Header) (name value : GoString) : Header := h.insert (canonicalHeaderKey name) [value]

/-- `Header.Add`. -/
def Header.add (h : Header) (name value : GoString) : Header :=
  h.insert (canonicalHeaderKey name) (h.values name ++ [value])

theorem Header.lookup_set (h : Header) (name value key : GoString) :
    (h.set name value).lookup key = if key = canonicalHeaderKey name then some [value] else h.lookup key :=
  Map.lookup_insert_eq h _ _ key

theorem Header.values_set_self (h : Header) (name value : GoString) : (h.set name value).values name = [value] := by
  rw [Header.values, Header.set, AList.lookup_insert]
  rfl

theorem Header.values_set_ne (h : Header) (value : GoString)
    (hne : canonicalHeaderKey query ≠ canonicalHeaderKey name) : (h.set name value).values query = h.values query := by
  rw [Header.values, Header.set, AList.lookup_insert_ne hne, Header.values]

theorem Header.values_add_ne (h : Header) (value : GoString)
    (hne : canonicalHeaderKey query ≠ canonicalHeaderKey name) : (h.add name value).values query = h.values query := by
  rw [Header.values, Header.add, AList.lookup_insert_ne hne, Header.values]

theorem Header.values_foldl_set_ne (fields : List (GoString × GoString)) (h : Header)
    (hne : ∀ field ∈ fields, canonicalHeaderKey name ≠ canonicalHeaderKey field.1) :
    (fields.foldl (fun h field => h.set field.1 field.2) h).values name = h.values name := by
  induction fields generalizing h with
  | nil => rfl
  | cons field fields ih =>
    rw [List.foldl_cons, ih _ fun other hother => hne other (List.mem_cons_of_mem _ hother)]
    exact Header.values_set_ne h field.2 (hne field List.mem_cons_self)

/-- Setting fields of different names one after the other sets each of them. -/
theorem Header.values_foldl_set {fields : List (GoString × GoString)} (h : Header) {value : GoString}
    (hnodup : (fields.map fun field => canonicalHeaderKey field.1).Nodup) (hmem : (name, value) ∈ fields) :
    (fields.foldl (fun h field => h.set field.1 field.2) h).values name = [value] := by
  induction fields generalizing h with
  | nil => cases hmem
  | cons field fields ih =>
    rw [List.map_cons, List.nodup_cons] at hnodup
    rw [List.foldl_cons]
    obtain rfl | hmem := List.mem_cons.mp hmem
    · rw [Header.values_foldl_set_ne, Header.values_set_self]
      intro other hother heq
      exact hnodup.1 (List.mem_map.mpr ⟨other, hother, heq.symm⟩)
    · exact ih _ hnodup.2 hmem

theorem Header.entries_set (h : Header) (name value : GoString) :
    (h.set name value).entries = ⟨canonicalHeaderKey name, [value]⟩ ::
      h.entries.filter fun field => decide (field.1 ≠ canonicalHeaderKey name) := by
  rw [Header.set, AList.entries_insert, ← Map.entries_erase]
  rfl

/-- What is left after some fields are deleted. -/
theorem Header.entries_foldl_del (names : List GoString) (h : Header) :
    (names.foldl Header.del h).entries =
      h.entries.filter fun field => decide (field.1 ∉ names.map canonicalHeaderKey) := by
  have hentries := Map.entries_foldl_erase (names.map canonicalHeaderKey) h
  rw [List.foldl_map] at hentries
  refine hentries.trans (List.filter_congr ?_)
  intro field _
  exact decide_eq_decide.mpr Iff.rfl

theorem Header.lookup_foldl_del (names : List GoString) (h : Header) (key : GoString) :
    (names.foldl Header.del h).lookup key = if key ∈ names.map canonicalHeaderKey then none else h.lookup key := by
  have hlookup := Map.lookup_foldl_erase (names.map canonicalHeaderKey) h key
  rw [List.foldl_map] at hlookup
  by_cases hkey : key ∈ names.map canonicalHeaderKey
  · rw [if_pos hkey]
    exact hlookup.trans (if_pos hkey)
  · rw [if_neg hkey]
    exact hlookup.trans (if_neg hkey)

example : canonicalHeaderKey (lit "x-tunnel-request-ID") = lit "X-Tunnel-Request-Id" := by decide

end golang.http
