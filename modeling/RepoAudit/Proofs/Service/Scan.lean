import RepoAudit.Proofs.Discovery.Manifest
import RepoAudit.Proofs.Entries
import RepoAudit.Proofs.Text.Writable
import RepoAudit.Service.Scan

/-!
How requests for scans are answered. Main statement: the causes that are listed here decide the
answer to every request, and a scan is started exactly if the body is an object that names a
repository.
-/
namespace RepoAudit.Service

/-- A request as a server receives it. The bytes of a header are taken for the characters with their
numbers, and the body is read from the connection. -/
structure Received where
  path : Text
  headers : List (Text × List UInt8)
  sent : List UInt8
  room : Nat

namespace Received

/-- The characters with the numbers of bytes. -/
def headerText (bytes : List UInt8) : Text := .ofChars (bytes.map fun b => Char.ofNat b.toNat)

def request (r : Received) : Request :=
  ⟨r.path, r.headers.map fun header => (header.1, headerText header.2), .sent r.sent r.room⟩

@[simp] theorem request_path (r : Received) : r.request.path = r.path := rfl

/-- A request announces a length: the header writes a whole number. -/
def Announces (r : Received) (n : Int) : Prop :=
  ∃ t, r.request.header? "Content-Length" = some t ∧ Decimal.readWhole t = .ok n

/-- The lengths for which bytes are read: `-1` for all, or as many as there is room for. -/
def Takes (r : Received) (n : Int) : Prop :=
  n = -1 ∨ 0 ≤ n ∧ n ≤ r.room ∧ n ≤ 9223372036854775774

instance (r : Received) (n : Int) : Decidable (r.Takes n) :=
  inferInstanceAs (Decidable (_ ∨ _ ∧ _ ∧ _))

/-- The part of the body that a length stands for. -/
def upTo (r : Received) (n : Int) : List UInt8 := if n = -1 then r.sent else r.sent.take n.toNat

/-- The bytes that are read. -/
def Sends (r : Received) (bytes : List UInt8) : Prop :=
  ∃ n, r.Announces n ∧ r.Takes n ∧ bytes = r.upTo n

/-- The value that is read: the bytes are UTF-8, and they are a document. -/
def Holds (r : Received) (v : Json) : Prop :=
  ∃ bytes chars, r.Sends bytes ∧ Utf8.decode bytes = .ok chars ∧
    Json.read (Text.ofChars chars) = .ok v

end Received

/-- Why a request at the right path is refused, and with which number. -/
inductive Refused (r : Received) : Nat → Prop
  | noLength (h : r.request.header? "Content-Length" = none) : Refused r 500
  | lengthNoNumber {t : Text} {fault : Fault} (h : r.request.header? "Content-Length" = some t)
    (hNumber : Decimal.readWhole t = .error fault) : Refused r 400
  | lengthNegative {n : Int} (h : r.Announces n) (hLeast : -9223372036854775808 ≤ n)
    (hSign : n < -1) : Refused r 400
  | lengthTooLarge {n : Int} (h : r.Announces n)
    (hSize : n < -9223372036854775808 ∨ 0 ≤ n ∧ ¬r.Takes n) : Refused r 500
  | undecodable {bytes : List UInt8} {bad : Utf8.Bad} (h : r.Sends bytes)
    (hDecode : Utf8.decode bytes = .error bad) : Refused r 400
  | noDocument {bytes : List UInt8} {chars : List Char} {error : Json.ReadError}
    (h : r.Sends bytes) (hDecode : Utf8.decode bytes = .ok chars)
    (hRead : Json.read (Text.ofChars chars) = .error error) : Refused r 400
  | scalar {v : Json} (h : r.Holds v) (hScalar : v.isScalar = true) : Refused r 500
  | unnamed {v : Json} (h : r.Holds v) (hScalar : v.isScalar = false)
    (hMentions : ¬v.Mentions Request.repositoryField) : Refused r 400
  | item {items : List Json} (h : r.Holds (.arr items))
    (hMentions : .str Request.repositoryField ∈ items) : Refused r 500
  | part {s : Text} (h : r.Holds (.str s)) (hMentions : Request.repositoryField <:+: s) :
    Refused r 500

/-- The number with which a request is answered, and the repository of which a scan is started. -/
inductive Answered (r : Received) : Nat → Option Json → Prop
  | otherPath (h : r.path ≠ endpoint) : Answered r 404 none
  | refused {code : Nat} (h : r.path = endpoint) (hRefused : Refused r code) : Answered r code none
  | started {members : List (Text × Json)} {repository : Json} (h : r.path = endpoint)
    (hBody : r.Holds (.obj members))
    (hMember : members.lookup Request.repositoryField = some repository) :
    Answered r 200 (some repository)

section Refusals

variable {fault : Fault}

/-- A bad value is the client's fault. -/
theorem refusal_of_isBadValue (h : fault.isBadValue = true) :
    (refusal fault).status = .badRequest := by
  unfold refusal
  split
  · rfl
  · rw [if_pos h]

/-- What is no number is a bad value. -/
theorem readWhole_isBadValue {t : Text} (h : Decimal.readWhole t = .error fault) :
    fault.isBadValue = true := by
  unfold Decimal.readWhole at h
  dsimp only at h
  split at h
  · cases h
    rfl
  · split at h
    · cases h
      rfl
    · split at h
      · cases h
        rfl
      · cases h

end Refusals

section Bodies

variable {r : Received} {n : Int}

/-- A length that is taken is read in full, as far as there are bytes. -/
theorem read_of_takes (h : r.Takes n) : r.request.body.read n = .ok (r.upTo n) := by
  have hBound : Body.lengthBound = 9223372036854775808 := rfl
  have hLongest : Body.longest = 9223372036854775774 := rfl
  simp only [Received.request, Body.read, Received.upTo]
  rcases h with rfl | ⟨hSign, hRoom, hSize⟩
  · rfl
  · have hFits : ¬(n < -Body.lengthBound ∨ Body.lengthBound ≤ n) := by omega
    have hNatural : ¬r.room < n.toNat := by omega
    simp only [Bool.or_eq_true, decide_eq_true_eq, hFits, if_false]
    rw [if_neg (by omega), if_neg (by omega), if_neg (by omega), if_neg hNatural,
      if_neg (by omega)]

/-- A negative length other than `-1` is a bad value. -/
theorem read_of_negative (hLeast : -9223372036854775808 ≤ n) (hSign : n < -1) :
    r.request.body.read n = .error .negativeLength := by
  have hBound : Body.lengthBound = 9223372036854775808 := rfl
  have hFits : ¬(n < -Body.lengthBound ∨ Body.lengthBound ≤ n) := by omega
  simp only [Received.request, Body.read, Bool.or_eq_true, decide_eq_true_eq, hFits, if_false]
  rw [if_pos hSign]

/-- A length that is too large for its number, for one piece or for the room is an error inside. -/
theorem read_of_tooLarge (h : n < -9223372036854775808 ∨ 0 ≤ n ∧ ¬r.Takes n) :
    ∃ fault, r.request.body.read n = .error fault ∧ (refusal fault).status = .internalError := by
  have hBound : Body.lengthBound = 9223372036854775808 := rfl
  have hLongest : Body.longest = 9223372036854775774 := rfl
  simp only [Received.request, Body.read]
  by_cases hFits : n < -Body.lengthBound ∨ Body.lengthBound ≤ n
  · exact ⟨.indexTooLarge, by simp [hFits], rfl⟩
  · obtain ⟨hSign, hTakes⟩ : 0 ≤ n ∧ ¬r.Takes n := h.resolve_left (by omega)
    simp only [Bool.or_eq_true, decide_eq_true_eq, hFits, if_false]
    rw [if_neg (by omega), if_neg (by omega)]
    by_cases hLong : Body.longest < n
    · exact ⟨.bytesTooLong, if_pos hLong, rfl⟩
    · have hRoom : r.room < n.toNat := by
        unfold Received.Takes at hTakes
        omega
      exact ⟨.outOfMemory, by rw [if_neg hLong, if_pos hRoom], rfl⟩

end Bodies

section Requests

variable {r : Received} {n : Int} {bytes : List UInt8} {v : Json}

/-- A server hands over no header with lone surrogates. -/
theorem writable_of_header? {name t : Text} (h : r.request.header? name = some t) :
    t.Writable := by
  obtain ⟨header, hFound, rfl⟩ := Option.map_eq_some_iff.1 h
  obtain ⟨received, -, rfl⟩ := List.mem_map.1 (List.mem_of_find?_eq_some hFound)
  exact Text.writable_ofChars _

/-- The length is what the header writes. -/
theorem contentLength_of_header? {t : Text} (h : r.request.header? "Content-Length" = some t) :
    r.request.contentLength = Decimal.readWhole t := by
  rw [Request.contentLength, h]
  have hPasses : ∀ p ∈ t, ErrorHandler.strict.passes p :=
    fun p hp => ErrorHandler.passes_of_isSome _ (writable_of_header? h p hp)
  simp only [Text.unencodable?_eq_none_iff.2 hPasses]
  rfl

/-- An announced length is read as that number. -/
theorem contentLength_of_announces (h : r.Announces n) : r.request.contentLength = .ok n := by
  obtain ⟨t, hHeader, hNumber⟩ := h
  rw [contentLength_of_header? hHeader, hNumber]

/-- The bytes that are sent are read whole. -/
theorem content_of_sends (h : r.Sends bytes) :
    ∃ n, r.request.contentLength = .ok n ∧ r.request.body.read n = .ok bytes := by
  obtain ⟨n, hLength, hTakes, rfl⟩ := h
  exact ⟨n, contentLength_of_announces hLength, read_of_takes hTakes⟩

/-- Bytes that are no text are refused with the fault of decoding. -/
theorem value_of_undecodable {bad : Utf8.Bad} (h : r.Sends bytes)
    (hDecode : Utf8.decode bytes = .error bad) : r.request.value = .error (.undecodable bad) := by
  obtain ⟨n, hLength, hContent⟩ := content_of_sends h
  simp only [Request.value, bind, Except.bind, hLength, hContent, hDecode]
  rfl

/-- A text that is no document is refused with the fault of reading. -/
theorem value_of_noDocument {chars : List Char} {error : Json.ReadError} (h : r.Sends bytes)
    (hDecode : Utf8.decode bytes = .ok chars)
    (hRead : Json.read (Text.ofChars chars) = .error error) :
    r.request.value = .error (.document error) := by
  obtain ⟨n, hLength, hContent⟩ := content_of_sends h
  simp only [Request.value, bind, Except.bind, hLength, hContent, hDecode, hRead]
  rfl

/-- A document in the body is the value of the request. -/
theorem value_of_holds (h : r.Holds v) : r.request.value = .ok v := by
  obtain ⟨bytes, chars, hSends, hDecode, hRead⟩ := h
  obtain ⟨n, hLength, hContent⟩ := content_of_sends hSends
  simp only [Request.value, bind, Except.bind, hLength, hContent, hDecode, hRead]
  rfl

theorem repository_of_error {fault : Fault} (h : r.request.value = .error fault) :
    r.request.repository = .error fault := by
  rw [Request.repository, h]
  rfl

/-- The repository is a member of the value, if the value can be asked for members. -/
theorem repository_of_holds (h : r.Holds v) : r.request.repository =
    (v.holds Request.repositoryField >>= fun found =>
      if found then v.field Request.repositoryField
      else throw (.missingField Request.repositoryField)) := by
  rw [Request.repository, value_of_holds h]
  rfl

/-- A length that cannot be read refuses the request. -/
theorem repository_of_length {fault : Fault} (h : r.request.contentLength = .error fault) :
    r.request.repository = .error fault := by
  apply repository_of_error
  rw [Request.value, h]
  rfl

/-- A body that cannot be read refuses the request. -/
theorem repository_of_read {fault : Fault} (h : r.Announces n)
    (hRead : r.request.body.read n = .error fault) : r.request.repository = .error fault := by
  apply repository_of_error
  simp only [Request.value, bind, Except.bind, contentLength_of_announces h, hRead]

/-- A cause of a refusal is a fault that is answered with its number. -/
theorem Refused.repository {code : Nat} (h : Refused r code) :
    ∃ fault, r.request.repository = .error fault ∧ (refusal fault).status.code = code := by
  cases h with
  | noLength h =>
      refine ⟨.notInteger "NoneType", repository_of_length ?_, rfl⟩
      rw [Request.contentLength, h]
  | @lengthNoNumber t fault h hNumber =>
      refine ⟨fault, repository_of_length ?_, ?_⟩
      · rw [contentLength_of_header? h, hNumber]
      · rw [refusal_of_isBadValue (readWhole_isBadValue hNumber)]
        rfl
  | @lengthNegative n h hLeast hSign =>
      exact ⟨.negativeLength, repository_of_read h (read_of_negative hLeast hSign), rfl⟩
  | @lengthTooLarge n h hSize =>
      obtain ⟨fault, hRead, hStatus⟩ := read_of_tooLarge hSize
      refine ⟨fault, repository_of_read h hRead, ?_⟩
      rw [hStatus]
      rfl
  | @undecodable bytes bad h hDecode =>
      exact ⟨.undecodable bad, repository_of_error (value_of_undecodable h hDecode), rfl⟩
  | @noDocument bytes chars error h hDecode hRead =>
      refine ⟨.document error, repository_of_error (value_of_noDocument h hDecode hRead), ?_⟩
      rw [refusal_of_isBadValue rfl]
      rfl
  | @scalar v h hScalar =>
      refine ⟨.notContainer v.typeName, ?_, rfl⟩
      rw [repository_of_holds h]
      cases v with
      | str s => cases hScalar
      | arr items => cases hScalar
      | obj members => cases hScalar
      | _ => rfl
  | @unnamed v h hScalar hMentions =>
      refine ⟨.missingField Request.repositoryField, ?_, rfl⟩
      have hFound : v.holds Request.repositoryField = .ok false := by
        rw [← Json.holds_eq_ok_true_iff] at hMentions
        rcases hHolds : v.holds Request.repositoryField with fault | found
        · rw [Json.holds_fails_iff.1 ⟨fault, hHolds⟩] at hScalar
          cases hScalar
        · cases found with
          | false => rfl
          | true => exact absurd hHolds hMentions
      rw [repository_of_holds h, hFound]
      rfl
  | @item items h hMentions =>
      refine ⟨.listIndexType "str", ?_, rfl⟩
      rw [repository_of_holds h, Json.holds_eq_ok_true_iff.2 (.item hMentions)]
      rfl
  | @part s h hMentions =>
      refine ⟨.textIndexType "str", ?_, rfl⟩
      rw [repository_of_holds h, Json.holds_eq_ok_true_iff.2 (.part hMentions)]
      rfl

/-- Each cause decides the answer. -/
theorem Answered.handle {code : Nat} {started : Option Json} (h : Answered r code started)
    (directory : Text) : (handle (.ok directory) r.request).response.status.code = code ∧
      (handle (.ok directory) r.request).started = started.map (·, directory) := by
  cases h with
  | otherPath h => simp [Service.handle, h, Status.code]
  | refused h hRefused =>
      obtain ⟨fault, hFault, hCode⟩ := hRefused.repository
      simp [Service.handle, h, hFault, hCode]
  | @started members repository h hBody hMember =>
      have hRepository : r.request.repository = .ok repository := by
        obtain ⟨name, hEntry, hName⟩ := exists_of_lookup hMember
        rw [← eq_of_beq hName] at hEntry
        rw [repository_of_holds hBody,
          Json.holds_eq_ok_true_iff.2 (.name (List.mem_map_of_mem hEntry))]
        simp only [bind, Except.bind, if_true, Json.field, hMember]
      simp [Service.handle, h, hRepository, Status.code]

end Requests

end RepoAudit.Service
