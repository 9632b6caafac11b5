import Myngrok.Tunnels.PublicHost

open golang

namespace myngrok.tunnels

def subdomainLength : Nat := 10

def alphabet : Bytes := lit "abcdefghijklmnopqrstuvwxyz0123456789"

/-- Bytes from here on are drawn again, so that every letter is equally likely. -/
def subdomainLimit : UInt8 := UInt8.ofNat (256 - 256 % alphabet.length)

/-- The inner loop of `GenerateSubdomain`, over what the calls of `rand.Read` return one after another; `none` if these
    run out before it has ended. -/
def drawByte : List (Except Error UInt8) → Option (Except Error UInt8 × List (Except Error UInt8))
  | [] => none
  | .error err :: reads => some (.error (lit "generate subdomain: " ++ err), reads)
  | .ok randomByte :: reads =>
    if randomByte < subdomainLimit then
      some (.ok (alphabet.getD (randomByte.toNat % alphabet.length) 0), reads)
    else drawByte reads

/-- The outer loop. -/
def drawBytes : Nat → List (Except Error UInt8) → Option (Except Error Bytes)
  | 0, _ => some (.ok [])
  | count + 1, reads =>
    match drawByte reads with
    | none => none
    | some (.error err, _) => some (.error err)
    | some (.ok b, reads) => (drawBytes count reads).map (·.map (b :: ·))

def generateSubdomain (reads : List (Except Error UInt8)) : Option (Except Error GoString) :=
  drawBytes subdomainLength reads

variable {reads : List (Except Error UInt8)} {s : GoString}

theorem drawByte_mem {rest : List (Except Error UInt8)} {b : UInt8} (h : drawByte reads = some (.ok b, rest)) :
    b ∈ alphabet := by
  induction reads with
  | nil => cases h
  | cons read reads ih =>
    cases read with
    | error err => cases h
    | ok randomByte =>
      rw [drawByte] at h
      split at h
      · cases h
        have hindex : randomByte.toNat % alphabet.length < alphabet.length := Nat.mod_lt _ (by decide)
        rw [List.getD_eq_getElem?_getD, List.getElem?_eq_getElem hindex, Option.getD_some]
        exact List.getElem_mem hindex
      · exact ih h

theorem drawBytes_spec {count : Nat} (h : drawBytes count reads = some (.ok s)) :
    s.length = count ∧ ∀ b ∈ s, b ∈ alphabet := by
  induction count generalizing reads s with
  | zero =>
    cases h
    exact ⟨rfl, nofun⟩
  | succ count ih =>
    rw [drawBytes] at h
    split at h
    · cases h
    · cases h
    · next b rest hfirst =>
      cases hrest : drawBytes count rest with
      | none =>
        rw [hrest] at h
        cases h
      | some drawn =>
        rw [hrest] at h
        cases drawn with
        | error err => cases h
        | ok tail =>
          cases h
          obtain ⟨hlength, hmem⟩ := ih hrest
          refine ⟨congrArg (· + 1) hlength, ?_⟩
          intro c hc
          rcases List.mem_cons.mp hc with rfl | hc
          · exact drawByte_mem hfirst
          · exact hmem c hc

/-- A subdomain that `GenerateSubdomain` returns has ten letters and digits. -/
theorem generateSubdomain_spec (h : generateSubdomain reads = some (.ok s)) :
    s.length = subdomainLength ∧ s.all subdomainByte = true := by
  obtain ⟨hlength, hmem⟩ := drawBytes_spec h
  have halphabet : alphabet.all subdomainByte = true := by decide
  exact ⟨hlength, List.all_eq_true.mpr fun b hb => List.all_eq_true.mp halphabet b (hmem b hb)⟩

end myngrok.tunnels
