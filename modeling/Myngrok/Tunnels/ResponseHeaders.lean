import Myngrok.Tunnels.PublicRequest

open golang http myngrok.protocol

namespace myngrok.tunnels

variable {headers : Headers} {key name : GoString}

/-- The keys that the filter deletes: the fixed fields, and those that a value of `Connection` names. Deletion goes by
    the canonical form of a name. -/
def Removed (headers : Headers) (key : GoString) : Prop :=
  (∃ name ∈ hopByHopHeaders, key = canonicalHeaderKey name) ∨
    ∃ values, headers.lookup (lit "Connection") = some values ∧
      ∃ value ∈ values, ∃ token ∈ strings.splitByte 0x2C value, key = canonicalHeaderKey (strings.trimSpace token)

theorem removed_iff_mem (headers : Headers) (key : GoString) :
    Removed headers key ↔
      key ∈ (((headers.values (lit "Connection")).flatMap fun value =>
        (strings.splitByte 0x2C value).map strings.trimSpace) ++ hopByHopHeaders).map canonicalHeaderKey := by
  have hvalues : headers.values (lit "Connection") = (headers.lookup (lit "Connection")).getD [] :=
    congrArg (fun key => (headers.lookup key).getD []) (by decide)
  simp only [Removed, hvalues, List.map_append, List.mem_append, List.mem_map, List.mem_flatMap]
  constructor
  · rintro (⟨name, hname, rfl⟩ | ⟨values, hlookup, value, hvalue, token, htoken, rfl⟩)
    · exact .inr ⟨name, hname, rfl⟩
    · refine .inl ⟨_, ⟨value, ?_, token, htoken, rfl⟩, rfl⟩
      rw [hlookup]
      exact hvalue
  · rintro (⟨_, ⟨value, hvalue, token, htoken, rfl⟩, rfl⟩ | ⟨name, hname, rfl⟩)
    · cases hlookup : headers.lookup (lit "Connection") with
      | none =>
        rw [hlookup] at hvalue
        cases hvalue
      | some values =>
        rw [hlookup] at hvalue
        exact .inr ⟨values, rfl, value, hvalue, token, htoken, rfl⟩
    · exact .inl ⟨name, hname, rfl⟩

/-- The filter deletes these and nothing else. -/
theorem lookup_withoutHopByHopHeaders (headers : Headers) (key : GoString) :
    (Removed headers key → (withoutHopByHopHeaders headers).lookup key = none) ∧
      (¬Removed headers key → (withoutHopByHopHeaders headers).lookup key = headers.lookup key) := by
  rw [withoutHopByHopHeaders, Header.lookup_foldl_del, removed_iff_mem]
  exact ⟨fun hremoved => if_pos hremoved, fun hkept => if_neg hkept⟩

/-- The loop that copies a map of fields, in the order in which `range` yields them, into the header of the response. -/
def addHeaders (header : Headers) (fields : List (Sigma fun _ : GoString => List GoString)) : Headers :=
  fields.foldl (fun header field => field.2.foldl (fun header value => Header.add header field.1 value) header) header

theorem mem_foldl_add (values : List GoString) (header : Headers) :
    key ∈ values.foldl (fun header value => Header.add header name value) header ↔
      key ∈ header ∨ values ≠ [] ∧ key = canonicalHeaderKey name := by
  induction values generalizing header with
  | nil => simp
  | cons value values ih =>
    rw [List.foldl_cons, ih, Header.add, AList.mem_insert]
    simp only [ne_eq, reduceCtorEq, not_false_eq_true, true_and]
    tauto

/-- Every field arrives under its canonical name, if it has a value. -/
theorem mem_addHeaders (fields : List (Sigma fun _ : GoString => List GoString)) (header : Headers) :
    key ∈ addHeaders header fields ↔
      key ∈ header ∨ ∃ field ∈ fields, field.2 ≠ [] ∧ key = canonicalHeaderKey field.1 := by
  induction fields generalizing header with
  | nil => simp [addHeaders]
  | cons field fields ih =>
    rw [addHeaders, List.foldl_cons, ← addHeaders, ih, mem_foldl_add, or_assoc]
    simp only [List.mem_cons, or_and_right, exists_or, exists_eq_left]

/-- The fields that must not reach the client, in whatever spelling. -/
def HopByHop (headers : Headers) (key : GoString) : Prop :=
  (∃ name ∈ hopByHopHeaders, strings.equalFold key name = true) ∨
    ∃ connection values, strings.equalFold connection (lit "Connection") = true ∧
      headers.lookup connection = some values ∧
      ∃ value ∈ values, ∃ token ∈ strings.splitByte 0x2C value,
        strings.equalFold key (strings.trimSpace token) = true

theorem hopByHop_canonical (headers : Headers) (name : GoString) :
    HopByHop headers (canonicalHeaderKey name) ↔ HopByHop headers name := by
  simp only [HopByHop, strings.equalFold, toLower_canonicalHeaderKey]

/-- The hop-by-hop fields of a map with a value are all stored under the canonical name of one of the fixed fields, or
    of one that is named under `Connection` in just this spelling. -/
def SpelledCanonically (headers : Headers) : Prop :=
  ∀ name values, headers.lookup name = some values → values ≠ [] → HopByHop headers name → Removed headers name

/-- What the handler writes to the public response is free of hop-by-hop fields just when the agent has spelled them
    canonically: others pass the filter, and `Add` makes them canonical. -/
theorem response_without_hopByHop_iff {fields : List (Sigma fun _ : GoString => List GoString)}
    (horder : fields.Perm (withoutHopByHopHeaders headers).entries) :
    (∀ key ∈ addHeaders ∅ fields, ¬HopByHop headers key) ↔ SpelledCanonically headers := by
  constructor
  · intro hclean name values hlookup hvalues hhop
    by_contra hkept
    have hfield : (withoutHopByHopHeaders headers).lookup name = some values :=
      ((lookup_withoutHopByHopHeaders headers name).2 hkept).trans hlookup
    refine hclean (canonicalHeaderKey name) ?_ ((hopByHop_canonical headers name).mpr hhop)
    refine (mem_addHeaders fields ∅).mpr (.inr ⟨⟨name, values⟩, ?_, hvalues, rfl⟩)
    exact horder.mem_iff.mpr (AList.mem_lookup_iff.mp hfield)
  · intro hspelled key hkey hhop
    rcases (mem_addHeaders fields ∅).mp hkey with hempty | ⟨⟨name, values⟩, hfield, hvalues, rfl⟩
    · exact absurd hempty (AList.notMem_empty key)
    · have hfield : (withoutHopByHopHeaders headers).lookup name = some values :=
        AList.mem_lookup_iff.mpr (horder.mem_iff.mp hfield)
      have hkept : ¬Removed headers name := by
        intro hremoved
        rw [(lookup_withoutHopByHopHeaders headers name).1 hremoved] at hfield
        cases hfield
      have hlookup := ((lookup_withoutHopByHopHeaders headers name).2 hkept).symm.trans hfield
      exact hkept (hspelled name values hlookup hvalues ((hopByHop_canonical headers name).mp hhop))

/-- The fields of an answer in lower case, as many servers write them. -/
def lowerCaseHeaders : Headers :=
  ((∅ : Headers).insert (lit "transfer-encoding") [lit "chunked"]).insert (lit "connection") [lit "x-internal"]
    |>.insert (lit "x-internal") [lit "10.0.0.1"]

/-- All three of them reach the client. -/
theorem lowerCaseHeaders_written :
    (addHeaders ∅ (withoutHopByHopHeaders lowerCaseHeaders).entries).keys =
        [lit "Transfer-Encoding", lit "Connection", lit "X-Internal"] ∧
      HopByHop lowerCaseHeaders (lit "Transfer-Encoding") ∧ HopByHop lowerCaseHeaders (lit "Connection") ∧
      HopByHop lowerCaseHeaders (lit "X-Internal") := by
  refine ⟨by decide, .inl ⟨lit "Transfer-Encoding", by decide, by decide⟩,
    .inl ⟨lit "Connection", by decide, by decide⟩, .inr ⟨lit "connection", [lit "x-internal"], by decide, by decide, ?_⟩⟩
  exact ⟨lit "x-internal", by decide, lit "x-internal", by decide, by decide⟩

def canonicalHeaders : Headers :=
  (∅ : Headers).insert (lit "Transfer-Encoding") [lit "chunked"] |>.insert (lit "Content-Type") [lit "text/plain"]

theorem lookup_canonicalHeaders {values : List GoString} (hlookup : canonicalHeaders.lookup name = some values) :
    name = lit "Content-Type" ∨ name = lit "Transfer-Encoding" := by
  rw [canonicalHeaders, Map.lookup_insert_eq, Map.lookup_insert_eq] at hlookup
  split at hlookup
  · next hname => exact .inl hname
  · split at hlookup
    · next hname => exact .inr hname
    · cases hlookup

theorem spelledCanonically_canonicalHeaders : SpelledCanonically canonicalHeaders := by
  intro name values hlookup _ hhop
  rcases lookup_canonicalHeaders hlookup with rfl | rfl
  · exfalso
    rcases hhop with ⟨name, hname, hfold⟩ | ⟨connection, _, hfold, hconnection, _⟩
    · revert name
      decide
    · rcases lookup_canonicalHeaders hconnection with rfl | rfl
      · revert hfold
        decide
      · revert hfold
        decide
  · exact .inl ⟨lit "Transfer-Encoding", by decide, by decide⟩

theorem canonicalHeaders_written :
    canonicalHeaders.keys = [lit "Content-Type", lit "Transfer-Encoding"] ∧
      ∀ key ∈ addHeaders ∅ (withoutHopByHopHeaders canonicalHeaders).entries, ¬HopByHop canonicalHeaders key :=
  ⟨by decide, (response_without_hopByHop_iff (List.Perm.refl _)).mpr spelledCanonically_canonicalHeaders⟩

end myngrok.tunnels
