import Mathlib.Data.List.TakeWhile
import Mathlib.Tactic.Common
import Myngrok.Go.Text

namespace golang.url

/-- A byte that ends the authority of a URL. -/
def endsAuthority (b : UInt8) : Bool := b = 0x2F ∨ b = 0x3F ∨ b = 0x23

/-- What follows the two slashes after the scheme of a URL. -/
def afterScheme (rawURL : GoString) : Option GoString :=
  let rest := (rawURL.dropWhile (· ≠ 0x3A)).drop 1
  if strings.hasPrefix rest (lit "//") then some (rest.drop 2) else none

/-- The rest of a URL after its authority. -/
def afterAuthority (rawURL : GoString) : GoString := ((afterScheme rawURL).getD []).dropWhile (!endsAuthority ·)

variable {scheme : GoString}

/-- Letters, digits and the signs that `escape` leaves in a path. -/
def unreserved (b : UInt8) : Bool :=
  utf8.within 0x30 0x39 b || utf8.within 0x41 0x5A b || utf8.within 0x61 0x7A b || b ∈ lit "-_.~$&+,/:;=@"

/-- `validEncoded`: the bytes of a path that is written as it was read. -/
def encoded (b : UInt8) : Bool := unreserved b || b ∈ lit "!'()*[]%"

def upperHex (n : Nat) : UInt8 := UInt8.ofNat (if n < 10 then 0x30 + n else 0x37 + n)

/-- `escape`, for a path. -/
def escapePath (path : GoString) : GoString :=
  path.flatMap fun b => if unreserved b then [b] else [0x25, upperHex (b.toNat / 16), upperHex (b.toNat % 16)]

/-- `unescape`, for a path. A sign of per cent without two digits, which is an error, is left as it is. -/
def unescapePath : GoString → GoString
  | 0x25 :: high :: low :: rest =>
    match unhex high, unhex low with
    | some high, some low => UInt8.ofNat (16 * high + low) :: unescapePath rest
    | _, _ => 0x25 :: unescapePath (high :: low :: rest)
  | b :: rest => b :: unescapePath rest
  | [] => []

/-- `EscapedPath` of what `Parse` makes of a path. -/
def escapedPath (path : GoString) : GoString := if path.all encoded then path else escapePath (unescapePath path)

/-- What is written of the rest of a URL after its authority: no fragment, the path with all other bytes escaped, and
    the query as it is. -/
def writtenTarget (rest : GoString) : GoString :=
  let rest := rest.takeWhile (· ≠ 0x23)
  let path := escapedPath (rest.takeWhile (· ≠ 0x3F))
  (if path = [] then lit "/" else path) ++ rest.dropWhile (· ≠ 0x3F)

/-- `RequestURI` of what `Parse` makes of a URL, which stands in the first line of a request for it. -/
def requestURI (rawURL : GoString) : GoString := writtenTarget (afterAuthority rawURL)

/-- A target that is written as it stands: a path, no fragment, and only bytes in the path that need not be escaped. -/
def Plain (target : GoString) : Prop :=
  target.head? = some 0x2F ∧ 0x23 ∉ target ∧ (target.takeWhile (· ≠ 0x3F)).all encoded = true

instance (target : GoString) : Decidable (Plain target) := inferInstanceAs (Decidable (_ ∧ _ ∧ _))

example : requestURI (lit "http://127.0.0.1:8080/a?x=1#f") = lit "/a?x=1" := by decide

end golang.url
