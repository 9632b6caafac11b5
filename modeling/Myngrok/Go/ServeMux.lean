import Myngrok.Go.Strings

namespace golang

namespace url

/-- `url.PathUnescape`. A malformed escape is kept as it stands; the server of net/http refuses a request that has
    one. -/
def pathUnescape : GoString → GoString
  | 0x25 :: high :: low :: rest =>
    match unhex high, unhex low with
    | some x, some y => UInt8.ofNat (16 * x + y) :: pathUnescape rest
    | _, _ => 0x25 :: pathUnescape (high :: low :: rest)
  | b :: rest => b :: pathUnescape rest
  | [] => []

/-- A percent sign without two digits behind it stands for itself. -/
theorem pathUnescape_percent (high low : UInt8) (rest : GoString) (hnot : unhex high = none ∨ unhex low = none) :
    pathUnescape (0x25 :: high :: low :: rest) = 0x25 :: pathUnescape (high :: low :: rest) := by
  rw [pathUnescape]
  split
  · next hhigh hlow =>
    rw [hhigh, hlow] at hnot
    exact absurd hnot (by simp)
  · rfl

theorem pathUnescape_cons {b : UInt8} (hb : b ≠ 0x25) (rest : GoString) :
    pathUnescape (b :: rest) = b :: pathUnescape rest := by
  rw [pathUnescape]
  intro high low more heq
  exact absurd heq hb

theorem pathUnescape_ne_nil {s : GoString} (hs : s ≠ []) : pathUnescape s ≠ [] := by
  fun_cases pathUnescape s with
  | case1 => exact List.cons_ne_nil _ _
  | case2 => exact List.cons_ne_nil _ _
  | case3 => exact List.cons_ne_nil _ _
  | case4 => exact absurd rfl hs

/-- No escape reaches over a slash. -/
theorem pathUnescape_append_slash (s t : GoString) :
    pathUnescape (s ++ 0x2F :: t) = pathUnescape s ++ 0x2F :: pathUnescape t := by
  have hslash : unhex 0x2F = none := rfl
  have hcons : pathUnescape (0x2F :: t) = 0x2F :: pathUnescape t := pathUnescape_cons (by decide) t
  fun_induction pathUnescape s with
  | case1 high low rest x y hhigh hlow ih => simp [pathUnescape, hhigh, hlow, ih]
  | case2 high low rest hnot ih =>
    have hnone : unhex high = none ∨ unhex low = none := by
      cases hhigh : unhex high with
      | none => exact .inl rfl
      | some x =>
        cases hlow : unhex low with
        | none => exact .inr rfl
        | some y => exact absurd hlow (hnot x y hhigh)
    rw [List.cons_append] at ih
    exact (pathUnescape_percent high low _ hnone).trans (congrArg (0x25 :: ·) ih)
  | case3 b rest hshort ih =>
    by_cases hb : b = 0x25
    · -- Fewer than two bytes follow the sign, so the slash is where a digit would be.
      subst hb
      match rest with
      | [] =>
        cases t with
        | nil => rfl
        | cons low more =>
          exact (pathUnescape_percent 0x2F low more (.inl hslash)).trans (congrArg (0x25 :: ·) hcons)
      | [high] => exact (pathUnescape_percent high 0x2F t (.inr hslash)).trans (congrArg (0x25 :: ·) ih)
      | high :: low :: more => exact absurd rfl (hshort high low more rfl)
    · exact (pathUnescape_cons hb _).trans (congrArg (b :: ·) ih)
  | case4 => exact hcons

/-- Unescaping a path is unescaping its segments. -/
theorem pathUnescape_joinByte (segments : List GoString) :
    pathUnescape (strings.joinByte 0x2F segments) = strings.joinByte 0x2F (segments.map pathUnescape) := by
  induction segments with
  | nil => rfl
  | cons first others ih =>
    cases others with
    | nil => rfl
    | cons second rest =>
      rw [strings.joinByte_cons 0x2F first (List.cons_ne_nil _ _), pathUnescape_append_slash, ih]
      rfl

end url

namespace path

/-- `path.Clean` of a rooted path, segment by segment. -/
def cleanSegments : List GoString → List GoString → List GoString
  | kept, [] => kept
  | kept, segment :: rest =>
    if segment = [] ∨ segment = lit "." then cleanSegments kept rest
    else if segment = lit ".." then cleanSegments kept.dropLast rest
    else cleanSegments (kept ++ [segment]) rest

end path

namespace http

/-- `cleanPath` of net/http: the rooted and cleaned path, with the trailing slash kept. -/
def cleanPath (p : GoString) : GoString :=
  let rooted := if p.head? = some 0x2F then p else 0x2F :: p
  let cleaned := 0x2F :: strings.joinByte 0x2F (path.cleanSegments [] (strings.splitByte 0x2F rooted))
  if rooted.getLast? = some 0x2F ∧ cleaned ≠ lit "/" then cleaned ++ lit "/" else cleaned

example : cleanPath (lit "/a/./b//../c/") = lit "/a/c/" := by decide

theorem head_cleanPath (p : GoString) : (cleanPath p).head? = some 0x2F := by
  unfold cleanPath
  extract_lets rooted cleaned
  split
  · rfl
  · rfl

/-- A pattern of `ServeMux` without a host and without wildcards. An empty method stands for every method; a path with a
    trailing slash, for every path below it. -/
structure Pattern where
  method : GoString
  path : GoString
  deriving DecidableEq

namespace Pattern

def segments (p : Pattern) : List GoString := strings.splitByte 0x2F p.path

def subtree (p : Pattern) : Bool := strings.hasSuffix p.path (lit "/")

/-- The segments that a path has to have in these places. -/
def literals (p : Pattern) : List GoString := if p.subtree then p.segments.dropLast else p.segments

/-- Whether the pattern is for a path with these segments. -/
def matchesPath (p : Pattern) (segments : List GoString) : Bool :=
  if p.subtree then p.literals.isPrefixOf segments && p.literals.length < segments.length
  else p.literals = segments

/-- `exactMatch` of net/http: nothing of the path is left to the trailing slash. -/
def exactMatch (p : Pattern) (escapedPath : GoString) : Bool :=
  !p.subtree || (strings.hasSuffix escapedPath (lit "/") &&
    p.segments.length = (strings.splitByte 0x2F escapedPath).length)

variable (p : Pattern) {segments : List GoString}

theorem matchesPath_of_literals (hsubtree : p.subtree = true) (hfront : p.literals <+: segments)
    (hlength : p.literals.length < segments.length) : p.matchesPath segments = true := by
  rw [matchesPath, if_pos hsubtree, Bool.and_eq_true, decide_eq_true_eq]
  exact ⟨List.isPrefixOf_iff_prefix.mpr hfront, hlength⟩

theorem prefix_of_matchesPath (hsubtree : p.subtree = true) (hmatches : p.matchesPath segments = true) :
    p.literals <+: segments ∧ p.literals.length < segments.length := by
  rw [matchesPath, if_pos hsubtree, Bool.and_eq_true, decide_eq_true_eq] at hmatches
  exact ⟨List.isPrefixOf_iff_prefix.mp hmatches.1, hmatches.2⟩

theorem eq_of_matchesPath (hsubtree : p.subtree = false) (hmatches : p.matchesPath segments = true) :
    p.literals = segments := by
  rw [matchesPath, hsubtree] at hmatches
  exact of_decide_eq_true hmatches

end Pattern

/-- The segments by which a path is matched, each one unescaped on its own. -/
def pathSegments (escapedPath : GoString) : List GoString :=
  (strings.splitByte 0x2F escapedPath).map url.pathUnescape

theorem joinByte_pathSegments (escapedPath : GoString) :
    strings.joinByte 0x2F (pathSegments escapedPath) = url.pathUnescape escapedPath := by
  rw [pathSegments, ← url.pathUnescape_joinByte, strings.joinByte_splitByte]

theorem pathSegments_ne_nil (escapedPath : GoString) : pathSegments escapedPath ≠ [] := by
  intro hnil
  exact strings.splitByte_ne_nil 0x2F escapedPath (List.map_eq_nil_iff.mp hnil)

/-- A rooted path begins with an empty segment. -/
theorem pathSegments_slash (rest : GoString) : pathSegments (0x2F :: rest) = [] :: pathSegments rest := by
  rw [pathSegments, strings.splitByte_separator]
  rfl

theorem pathSegments_append_slash (escapedPath : GoString) :
    pathSegments (escapedPath ++ lit "/") = pathSegments escapedPath ++ [[]] := by
  have hsplit := strings.splitByte_append 0x2F escapedPath
  rw [pathSegments, pathSegments, show lit "/" = [0x2F] from rfl, hsplit, List.map_append]
  rfl

/-- The first segment of a path that is not rooted has text. -/
theorem head_pathSegments {b : UInt8} (hb : b ≠ 0x2F) (rest : GoString) :
    ∃ first others, pathSegments (b :: rest) = first :: others ∧ first ≠ [] := by
  rw [pathSegments, strings.splitByte]
  split
  · next hnil => exact absurd hnil (strings.splitByte_ne_nil 0x2F rest)
  · next first others _ =>
    rw [if_neg hb]
    exact ⟨_, _, rfl, url.pathUnescape_ne_nil (List.cons_ne_nil b first)⟩

/-- `ServeMux`: the patterns with their handlers. -/
abbrev ServeMux (H : Type) := List (Pattern × H)

namespace ServeMux

variable {H : Type} {entry : Pattern × H} {segments : List GoString}

/-- Of the patterns that match, the one with most segments spelled out. -/
def mostSpecific : ServeMux H → Option (Pattern × H)
  | [] => none
  | entry :: rest =>
    match mostSpecific rest with
    | none => some entry
    | some best => if best.1.literals.length ≤ entry.1.literals.length then some entry else some best

/-- The patterns registered for one method, or for all of them. -/
def matchMethod (mux : ServeMux H) (method : GoString) (segments : List GoString) : Option (Pattern × H) :=
  mostSpecific (mux.filter fun entry => entry.1.method = method ∧ entry.1.matchesPath segments)

/-- `matchMethodAndPath`: patterns for the method first, where GET is for HEAD as well, then those for every method. -/
def find (mux : ServeMux H) (method : GoString) (segments : List GoString) : Option (Pattern × H) :=
  (mux.matchMethod method segments).or
    ((if method = lit "HEAD" then mux.matchMethod (lit "GET") segments else none).or
      (mux.matchMethod [] segments))

/-- What becomes of a request: a handler is called, or the client is sent elsewhere, or no pattern is for it. -/
inductive Selection (H : Type) where
  | handler (handler : H)
  | redirect (path : GoString)
  | notFound
  deriving DecidableEq

/-- `matchOrRedirect`: the pattern for the path, unless only the path with a slash added is one that a pattern spells
    out. -/
def matchOrRedirect (mux : ServeMux H) (method escapedPath : GoString) : Selection H :=
  let found := mux.find method (pathSegments escapedPath)
  let slashed := escapedPath ++ lit "/"
  if !found.any (fun entry => entry.1.exactMatch escapedPath) ∧
      !strings.hasSuffix escapedPath (lit "/") ∧ escapedPath ≠ [] ∧
      (mux.find method (pathSegments slashed)).any (fun entry => entry.1.exactMatch slashed) then
    .redirect (cleanPath (url.pathUnescape escapedPath) ++ lit "/")
  else
    match found with
    | some entry => .handler entry.2
    | none => .notFound

/-- `ServeMux.findHandler`: CONNECT is matched as it is; other requests are sent to the clean form of their path
    first. -/
def findHandler (mux : ServeMux H) (method escapedPath : GoString) : Selection H :=
  if method = lit "CONNECT" then mux.matchOrRedirect method escapedPath
  else
    match mux.matchOrRedirect method (cleanPath escapedPath) with
    | .redirect path => .redirect path
    | selection => if cleanPath escapedPath ≠ escapedPath then .redirect (cleanPath escapedPath) else selection

/-- Whether a pattern is tried for a method at all. -/
def MethodAllows (pattern : Pattern) (method : GoString) : Prop :=
  pattern.method = [] ∨ pattern.method = method ∨ (pattern.method = lit "GET" ∧ method = lit "HEAD")

theorem mem_of_mostSpecific {mux : ServeMux H} (hfound : mostSpecific mux = some entry) : entry ∈ mux := by
  induction mux generalizing entry with
  | nil => cases hfound
  | cons first rest ih =>
    rw [mostSpecific] at hfound
    split at hfound
    · cases hfound
      exact List.mem_cons_self
    · next best hbest =>
      split at hfound
      · cases hfound
        exact List.mem_cons_self
      · cases hfound
        exact List.mem_cons_of_mem _ (ih hbest)

theorem exists_mostSpecific {mux : ServeMux H} (hmux : mux ≠ []) : ∃ entry, mostSpecific mux = some entry := by
  cases mux with
  | nil => exact absurd rfl hmux
  | cons first rest =>
    rw [mostSpecific]
    split
    · exact ⟨first, rfl⟩
    · split
      · exact ⟨first, rfl⟩
      · exact ⟨_, rfl⟩

theorem mem_of_matchMethod {mux : ServeMux H} {method : GoString}
    (hfound : mux.matchMethod method segments = some entry) :
    entry ∈ mux ∧ entry.1.method = method ∧ entry.1.matchesPath segments = true := by
  have hmem := List.mem_filter.mp (mem_of_mostSpecific hfound)
  exact ⟨hmem.1, of_decide_eq_true hmem.2⟩

theorem exists_matchMethod {mux : ServeMux H} (hmem : entry ∈ mux) (hmatches : entry.1.matchesPath segments = true) :
    ∃ found, mux.matchMethod entry.1.method segments = some found :=
  exists_mostSpecific (List.ne_nil_of_mem (List.mem_filter.mpr ⟨hmem, decide_eq_true ⟨rfl, hmatches⟩⟩))

/-- What is found is registered, for the method and for the path. -/
theorem find_spec {mux : ServeMux H} {method : GoString} (hfound : mux.find method segments = some entry) :
    entry ∈ mux ∧ MethodAllows entry.1 method ∧ entry.1.matchesPath segments = true := by
  rw [find, Option.or_eq_some_iff] at hfound
  rcases hfound with hown | ⟨-, hother⟩
  · obtain ⟨hmem, hmethod, hmatches⟩ := mem_of_matchMethod hown
    exact ⟨hmem, .inr (.inl hmethod), hmatches⟩
  · rw [Option.or_eq_some_iff] at hother
    rcases hother with hget | ⟨-, hany⟩
    · split at hget
      · next hhead =>
        obtain ⟨hmem, hmethod, hmatches⟩ := mem_of_matchMethod hget
        exact ⟨hmem, .inr (.inr ⟨hmethod, hhead⟩), hmatches⟩
      · cases hget
    · obtain ⟨hmem, hmethod, hmatches⟩ := mem_of_matchMethod hany
      exact ⟨hmem, .inl hmethod, hmatches⟩

/-- A pattern for every method is found if it is the only one for the path. -/
theorem find_eq_of_unique {mux : ServeMux H} {method : GoString} (hmem : entry ∈ mux) (hany : entry.1.method = [])
    (hmatches : entry.1.matchesPath segments = true)
    (hunique : ∀ other ∈ mux, MethodAllows other.1 method → other.1.matchesPath segments = true → other = entry) :
    mux.find method segments = some entry := by
  cases hfound : mux.find method segments with
  | some other =>
    obtain ⟨hother, hallows, hpath⟩ := find_spec hfound
    rw [hunique other hother hallows hpath]
  | none =>
    obtain ⟨found, hsome⟩ := exists_matchMethod hmem hmatches
    rw [hany] at hsome
    simp only [find, Option.or_eq_none_iff, hsome, reduceCtorEq, and_false] at hfound

variable {mux : ServeMux H} {method escapedPath : GoString} {handler : H}

theorem find_of_matchOrRedirect (hhandler : mux.matchOrRedirect method escapedPath = .handler handler) :
    ∃ entry, mux.find method (pathSegments escapedPath) = some entry ∧ entry.2 = handler := by
  rw [matchOrRedirect] at hhandler
  split at hhandler
  · cases hhandler
  · cases hfound : mux.find method (pathSegments escapedPath) with
    | none =>
      rw [hfound] at hhandler
      cases hhandler
    | some entry =>
      rw [hfound] at hhandler
      cases hhandler
      exact ⟨entry, rfl, rfl⟩

theorem findHandler_of_clean (hmethod : method ≠ lit "CONNECT") (hclean : cleanPath escapedPath = escapedPath) :
    mux.findHandler method escapedPath = mux.matchOrRedirect method escapedPath := by
  rw [findHandler, if_neg hmethod, hclean]
  cases mux.matchOrRedirect method escapedPath with
  | redirect path => rfl
  | handler handler => exact if_neg fun hne => hne rfl
  | notFound => exact if_neg fun hne => hne rfl

theorem findHandler_of_unclean (hmethod : method ≠ lit "CONNECT") (hclean : cleanPath escapedPath ≠ escapedPath) :
    ∃ path, mux.findHandler method escapedPath = .redirect path := by
  rw [findHandler, if_neg hmethod]
  cases mux.matchOrRedirect method (cleanPath escapedPath) with
  | redirect path => exact ⟨path, rfl⟩
  | handler handler => exact ⟨_, if_pos hclean⟩
  | notFound => exact ⟨_, if_pos hclean⟩

/-- A handler is called for a clean path only, and it is the one that `find` gives. -/
theorem find_of_findHandler (hhandler : mux.findHandler method escapedPath = .handler handler) :
    ∃ entry, (method ≠ lit "CONNECT" → cleanPath escapedPath = escapedPath) ∧
      mux.find method (pathSegments escapedPath) = some entry ∧ entry.2 = handler := by
  by_cases hmethod : method = lit "CONNECT"
  · rw [findHandler, if_pos hmethod] at hhandler
    obtain ⟨entry, hfound⟩ := find_of_matchOrRedirect hhandler
    exact ⟨entry, fun hnot => absurd hmethod hnot, hfound⟩
  · by_cases hclean : cleanPath escapedPath = escapedPath
    · rw [findHandler_of_clean hmethod hclean] at hhandler
      obtain ⟨entry, hfound⟩ := find_of_matchOrRedirect hhandler
      exact ⟨entry, fun _ => hclean, hfound⟩
    · obtain ⟨path, hredirect⟩ := @findHandler_of_unclean H mux method escapedPath hmethod hclean
      rw [hredirect] at hhandler
      cases hhandler

end ServeMux

end http

end golang
