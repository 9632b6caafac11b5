import Myngrok.Go.Decimal
import Myngrok.Go.Header

namespace golang.http

open Result

/-- What net/http's server keeps of a response while a handler runs: its header map, the informational responses that
    were sent, the status once there is one, the length that the handler has announced, how much it has tried to write,
    and the body that was taken from it. -/
structure ResponseWriter where
  header : Header
  informational : List Int
  status : Option Int
  contentLength : Option Int
  written : Nat
  body : Bytes
  deriving DecidableEq

/-- `bodyAllowedForStatus`. -/
def bodyAllowedForStatus (status : Int) : Bool := ¬(100 ≤ status ∧ status ≤ 199 ∨ status = 204 ∨ status = 304)

/-- A value of `Content-Length` that leaves room for a body: a number that is not below its length, or no length at
    all. -/
def admitsLength (length : Nat) (value : GoString) : Bool :=
  match strconv.parseInt value with
  | some announced => announced < 0 || length ≤ announced
  | none => true

namespace ResponseWriter

def new : ResponseWriter :=
  { header := ∅, informational := [], status := none, contentLength := none, written := 0, body := [] }

/-- The length that the header announces; what is no length is deleted from it. -/
def announceLength (w : ResponseWriter) : ResponseWriter :=
  let announced := w.header.get (lit "Content-Length")
  if announced = [] then w
  else
    match strconv.parseInt announced with
    | some length =>
      if 0 ≤ length then { w with contentLength := some length }
      else { w with header := w.header.del (lit "Content-Length") }
    | none => { w with header := w.header.del (lit "Content-Length") }

/-- `WriteHeader`: only the first status counts, codes that do not have three digits panic, and those from 100 to 199
    other than 101 are sent at once and leave the status open. -/
def writeHeader (w : ResponseWriter) (code : Int) : Result ResponseWriter :=
  if w.status.isSome then ok w
  else if code < 100 ∨ code > 999 then panic
  else if code ≤ 199 ∧ code ≠ 101 then ok { w with informational := w.informational ++ [code] }
  else ok { w with status := some code }.announceLength

/-- What `Write` makes of its data once there is a status: a body that the status does not allow, or that is longer than
    announced, is refused. -/
def take (w : ResponseWriter) (data : Bytes) : ResponseWriter :=
  if data = [] ∨ ¬w.status.all bodyAllowedForStatus then w
  else
    let w := { w with written := w.written + data.length }
    if w.contentLength.any fun length => length < (w.written : Int) then w else { w with body := w.body ++ data }

/-- `Write`, which writes the status 200 if there is none. -/
def write (w : ResponseWriter) (data : Bytes) : Result ResponseWriter := do
  let w ← w.writeHeader 200
  return w.take data

/-- `http.Error`. -/
def error (w : ResponseWriter) (text : GoString) (code : Int) : Result ResponseWriter := do
  let header := (w.header.del (lit "Content-Length")).set (lit "Content-Type") (lit "text/plain; charset=utf-8")
  let w ← { w with header := header.set (lit "X-Content-Type-Options") (lit "nosniff") }.writeHeader code
  w.write (text ++ lit "\n")

variable {w next : ResponseWriter} {code : Int} {data : Bytes}

theorem announceLength_frame (w : ResponseWriter) :
    w.announceLength.status = w.status ∧ w.announceLength.written = w.written ∧ w.announceLength.body = w.body := by
  unfold announceLength
  dsimp only
  repeat' split
  all_goals exact ⟨rfl, rfl, rfl⟩

/-- What the header does not rule out, the announced length does not either. -/
theorem contentLength_announceLength {length : Int} (hnone : w.contentLength = none)
    (hfits : admitsLength data.length (w.header.get (lit "Content-Length")) = true)
    (hlength : w.announceLength.contentLength = some length) : (data.length : Int) ≤ length := by
  unfold announceLength at hlength
  dsimp only at hlength
  split at hlength
  · cases hnone.symm.trans hlength
  · split at hlength
    · next announced hparse =>
      split at hlength
      · next hpos =>
        cases hlength
        rw [admitsLength, hparse] at hfits
        simpa [Int.not_lt.mpr hpos] using hfits
      · cases hnone.symm.trans hlength
    · cases hnone.symm.trans hlength

theorem take_status (w : ResponseWriter) (data : Bytes) : (w.take data).status = w.status := by
  unfold take
  dsimp only
  repeat' split
  all_goals rfl

/-- Nothing is cut from a body that fits. -/
theorem take_body (hallowed : w.status.all bodyAllowedForStatus = true)
    (hfits : ∀ length, w.contentLength = some length → ((w.written + data.length : Nat) : Int) ≤ length) :
    (w.take data).body = w.body ++ data := by
  unfold take
  dsimp only
  split
  · next hrefused =>
    rw [hrefused.resolve_right fun hnot => hnot hallowed, List.append_nil]
  · rw [if_neg]
    intro hlong
    obtain ⟨length, hlength, hlt⟩ := (Option.any_eq_true _ _).mp hlong
    exact absurd (of_decide_eq_true hlt) (Int.not_lt.mpr (hfits length hlength))

theorem exists_writeHeader_iff (hopen : w.status = none) :
    (∃ next, w.writeHeader code = ok next) ↔ 100 ≤ code ∧ code ≤ 999 := by
  rw [writeHeader, hopen, if_neg (by decide)]
  split
  · next hrange =>
    constructor
    · rintro ⟨next, hnext⟩
      cases hnext
    · omega
  · next hrange =>
    refine ⟨fun _ => by omega, fun _ => ?_⟩
    split
    · exact ⟨_, rfl⟩
    · exact ⟨_, rfl⟩

theorem writeHeader_of_final (hopen : w.status = none) (hrange : 200 ≤ code ∨ code = 101) (hmax : code ≤ 999) :
    w.writeHeader code = ok { w with status := some code }.announceLength := by
  rw [writeHeader, hopen, if_neg (by decide), if_neg (by omega), if_neg (by omega)]

theorem writeHeader_of_informational (hopen : w.status = none) (hrange : 100 ≤ code ∧ code ≤ 199) (hother : code ≠ 101) :
    w.writeHeader code = ok { w with informational := w.informational ++ [code] } := by
  rw [writeHeader, hopen, if_neg (by decide), if_neg (by omega), if_pos ⟨hrange.2, hother⟩]

theorem write_of_open (hopen : w.status = none) (data : Bytes) :
    w.write data = ok ({ w with status := some 200 }.announceLength.take data) := by
  rw [write, writeHeader_of_final hopen (by decide) (by decide)]
  rfl

theorem write_of_status (hstatus : w.status = some code) (data : Bytes) : w.write data = ok (w.take data) := by
  rw [write, writeHeader, hstatus]
  rfl

theorem writeHeader_body (h : w.writeHeader code = ok next) : next.body = w.body := by
  unfold writeHeader at h
  repeat' split at h
  · cases h
    rfl
  · cases h
  · cases h
    rfl
  · cases h
    exact (announceLength_frame _).2.2

theorem write_nil_body (h : w.write [] = ok next) : next.body = w.body := by
  obtain ⟨opened, hopened, htaken⟩ := bind_eq_ok_iff.mp h
  cases htaken
  exact writeHeader_body hopened

/-- After a write there is a status. -/
theorem exists_write (w : ResponseWriter) (data : Bytes) :
    ∃ next, w.write data = ok next ∧ next.status = some (w.status.getD 200) := by
  cases hstatus : w.status with
  | none =>
    refine ⟨_, write_of_open hstatus data, ?_⟩
    rw [take_status, (announceLength_frame _).1]
    rfl
  | some code =>
    refine ⟨_, write_of_status hstatus data, ?_⟩
    rw [take_status]
    exact hstatus

/-- A fresh response that takes the status and the body of an answer takes the whole body, if the status allows one and
    the header does not announce a shorter one. -/
theorem body_of_writeHeader {header : Header} (hrange : 100 ≤ code ∧ code ≤ 999)
    (hallowed : code ≠ 101 ∧ code ≠ 204 ∧ code ≠ 304)
    (hfits : admitsLength data.length (header.get (lit "Content-Length")) = true) :
    ∃ next last, { new with header }.writeHeader code = ok next ∧ next.write data = ok last ∧ last.body = data := by
  have htaken : ∀ (w : ResponseWriter) (status : Int), w.header = header → w.contentLength = none → w.written = 0 →
      w.body = [] → bodyAllowedForStatus status = true →
      ({ w with status := some status }.announceLength.take data).body = data := by
    rintro w status rfl hnone hwritten hbody hstatus
    obtain ⟨hkept, hwrote, hbodies⟩ := announceLength_frame { w with status := some status }
    rw [take_body, hbodies, hbody, List.nil_append]
    · rw [hkept]
      exact hstatus
    · intro length hlength
      rw [hwrote, hwritten, Nat.zero_add]
      exact @contentLength_announceLength { w with status := some status } data length hnone hfits hlength
  by_cases hfinal : 200 ≤ code
  · refine ⟨_, _, writeHeader_of_final rfl (.inl hfinal) hrange.2, write_of_status (announceLength_frame _).1 data, ?_⟩
    refine htaken { new with header } code rfl rfl rfl rfl ?_
    simp only [bodyAllowedForStatus, decide_eq_true_eq]
    omega
  · -- An informational status is sent at once, and the answer itself has the status 200.
    refine ⟨_, _, writeHeader_of_informational rfl ⟨hrange.1, by omega⟩ hallowed.1, write_of_open rfl data, ?_⟩
    exact htaken { new with header, informational := [code] } 200 rfl rfl rfl rfl (by decide)

end ResponseWriter

end golang.http
