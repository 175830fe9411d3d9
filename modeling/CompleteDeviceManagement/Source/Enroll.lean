import CompleteDeviceManagement.Library.CString
import CompleteDeviceManagement.Library.Search
import CompleteDeviceManagement.Source.EnrollClients

/-!
# The enrollment of a FreeRTOS device

Source: device-stack/freertos-x86_64-posix/enroll/enroll.c and `vEnrollTask` of main.c.
What mbedTLS, libcurl and the file system do in a run is given with the machine. The
`goto cleanup` of the steps before the request passes over the initialisation of
`response`, whose buffer is freed nevertheless.
-/

set_option autoImplicit false

namespace CompleteDeviceManagement.Source.Enroll
open CompleteDeviceManagement.Library
open CompleteDeviceManagement.Library.CString (store)
open CompleteDeviceManagement.Library.Search (after)
open CompleteDeviceManagement.Source.EnrollClients (Env Generated Sent orDefault required
  deviceIdFreertos)

abbrev Bytes := List UInt8

/-- The bytes of a text. -/
def bytes (text : String) : Bytes := Utf8.encode text.toList

/-- `snprintf(buf, size, …)`, for a text that is longer without its end. -/
def snprintf (size : Nat) (text : Bytes) : Bytes := text.take (size - 1)

/-! ## helpers -/

abbrev Files := Bytes → Option Bytes

/-- The files, and what `write_file` was called with. -/
structure Disk where
  files : Files
  handed : List (Bytes × Bytes) := []

/-- `write_file`, for a file that cannot be opened (`none`) or of which so many bytes
are stored. Its result is -1 or 0. -/
def writeFile (stored : Option Nat) (path data : Bytes) (disk : Disk) : Int × Disk :=
  let handed := disk.handed ++ [(path, data)]
  match stored with
  | none => (-1, ⟨disk.files, handed⟩)
  | some n => (0, ⟨Function.update disk.files path (some (data.take n)), handed⟩)

/-- The loop of `json_get_string` while there is room in `out`: 34 is the quote, 92 the
backslash, 110 the letter n. -/
def copyValue : Nat → Bytes → Bytes
  | 0, _ => []
  | _ + 1, [] => []
  | room + 1, c :: rest =>
      if c = 34 then []
      else
        match c, rest with
        | 92, 110 :: rest => 10 :: copyValue room rest
        | 92, 92 :: rest => 92 :: copyValue room rest
        | c, rest => c :: copyValue room rest

/-- Behind the colon: blanks and a string. -/
def stringAt (outSz : Nat) (p : Bytes) : Option Bytes :=
  match p.dropWhile (· = 32) with
  | 34 :: value => some (copyValue (outSz - 1) value)
  | _ => none

/-- `json_get_string`; the text in `out`, or nothing for -1. `strstr` and the step over
the text it has found are `after`; the buffer for that text has 128 bytes. -/
def jsonGetString (json : Bytes) (key : String) (outSz : Nat) : Option Bytes :=
  (after (snprintf 128 (34 :: bytes key ++ [34, 58])) json).bind (stringAt outSz)

/-- The loop that makes newlines of `\n` in place. -/
def unescapeNewlines : Bytes → Bytes
  | [] => []
  | 92 :: 110 :: rest => 10 :: unescapeNewlines rest
  | c :: rest => c :: unescapeNewlines rest

/-! ## csr_escaped -/

/-- The loop over `csr_pem`, from what is still to be read and the index to write at
on: what it has not read, the index behind what it has written, and the buffer. Nothing
where it would leave one of the arrays; 10 is the newline. -/
def escapeLoop : Bytes → Nat → Bytes → Option (Bytes × Nat × Bytes)
  | [], _, _ => none
  | c :: rest, ei, buffer =>
      if c ≠ 0 ∧ ei < 8192 - 3 then
        if c = 10 then do
          let buffer ← store buffer ei 92
          let buffer ← store buffer (ei + 1) 110
          escapeLoop rest (ei + 2) buffer
        else do
          let buffer ← store buffer ei c
          escapeLoop rest (ei + 1) buffer
      else some (c :: rest, ei, buffer)

/-- What the loop has not read, and `csr_escaped` with its terminator. -/
def csrEscaped (csrPem buffer : Bytes) : Option (Bytes × Bytes) := do
  let (unread, ei, buffer) ← escapeLoop csrPem 0 buffer
  let buffer ← store buffer ei 0
  some (unread, buffer)

/-! ## What the run meets -/

/-- The results of the calls of mbedTLS, for the name the CSR is to have. -/
structure Mbedtls where
  ctrDrbgSeed : Int
  pkSetup : Int
  ecpGenKey : Int
  pkWriteKeyPem : Int
  keyPem : Bytes
  setSubjectName : Bytes → Int
  x509writeCsrPem : Bytes → Int
  csrPem : Bytes → String

/-- What `curl_easy_perform` leaves: without a byte of a body `response.buf` is NULL. -/
inductive Transfer where
  | failed
  | answered (httpCode : Int) (body : Option Bytes)

/-- Whether the flag can be read and created, and how much of the other files is stored. -/
structure FileOutcomes where
  flagReadable : Bool
  key : Option Nat
  crt : Option Nat
  ca : Option Nat
  flagWritable : Bool

structure Machine where
  env : Env
  certsDirSetting : Option String
  mbedtls : Mbedtls
  curlInit : Bool
  perform : Sent → Transfer
  outcomes : FileOutcomes
  /-- the word on the stack that becomes `response.buf`, 0 for NULL -/
  stackWord : Nat

namespace Machine

variable (m : Machine)

def certsDir : Bytes := bytes (orDefault m.certsDirSetting "./certs")

/-- The file that is meant. -/
def inCertsDir (name : String) : Bytes := m.certsDir ++ 47 :: bytes name

/-- The buffers for paths have 512 bytes. -/
def path (name : String) : Bytes := snprintf 512 (m.inCertsDir name)

def subject : Bytes :=
  snprintf 256 (bytes ("CN=" ++ deviceIdFreertos m.env ++ ",O=CDM,OU=" ++
    orDefault m.env.tenantId "tenant1"))

def csrPem : String := m.mbedtls.csrPem m.subject

/-- The request, for a `BRIDGE_API_URL` that is set. -/
def transfer : Transfer :=
  match EnrollClients.cdmEnroll m.env ⟨m.csrPem, ""⟩ with
  | none => .failed
  | some sent => m.perform sent

end Machine

/-! ## cdm_enroll -/

inductive End where
  | returned (ret : Int)
  | undefined
  deriving DecidableEq

structure Result where
  ends : End
  disk : Disk

/-- `goto cleanup` before `response` is initialised. -/
def cleanupEarly (m : Machine) (ret : Int) (disk : Disk) : Result :=
  ⟨if m.stackWord = 0 then .returned ret else .undefined, disk⟩

/-- The text for a file, of a response that is a C string. -/
def pemOf (body : Bytes) (key : String) : Option Bytes :=
  (jsonGetString (body.takeWhile (· ≠ 0)) key 8192).map unescapeNewlines

/-- From the parsing of the response on. The results of `write_file` are not looked at. -/
def persist (m : Machine) (body : Bytes) (disk : Disk) : Result :=
  match pemOf body "certificate", pemOf body "ca_chain" with
  | some certPem, some chainPem =>
      let disk := (writeFile m.outcomes.crt (m.path "device.pem") certPem disk).2
      let disk := (writeFile m.outcomes.ca (m.path "ca-chain.pem") chainPem disk).2
      let files :=
        if m.outcomes.flagWritable then Function.update disk.files (m.path ".enrolled") (some [])
        else disk.files
      ⟨.returned 0, files, disk.handed⟩
  | _, _ => ⟨.returned (-1), disk⟩

/-- From the request on. -/
def post (m : Machine) (disk : Disk) : Result :=
  if m.curlInit then
    match m.transfer with
    | .failed => ⟨.returned (-1), disk⟩
    | .answered httpCode body =>
        if httpCode ≠ 200 then ⟨.returned (-1), disk⟩
        else
          match body with
          -- `strstr(NULL, …)`
          | none => ⟨.undefined, disk⟩
          | some body => persist m body disk
  else ⟨.returned (-1), disk⟩

/-- The CSR, behind the key that is stored. -/
def makeCsr (m : Machine) (disk : Disk) : Result :=
  if m.mbedtls.setSubjectName m.subject ≠ 0 then
    cleanupEarly m (m.mbedtls.setSubjectName m.subject) disk
  else if m.mbedtls.x509writeCsrPem m.subject ≠ 0 then
    cleanupEarly m (m.mbedtls.x509writeCsrPem m.subject) disk
  else post m disk

def makeKey (m : Machine) (disk : Disk) : Result :=
  if m.mbedtls.ctrDrbgSeed ≠ 0 then cleanupEarly m m.mbedtls.ctrDrbgSeed disk
  else if m.mbedtls.pkSetup ≠ 0 then cleanupEarly m m.mbedtls.pkSetup disk
  else if m.mbedtls.ecpGenKey ≠ 0 then cleanupEarly m m.mbedtls.ecpGenKey disk
  else if m.mbedtls.pkWriteKeyPem ≠ 0 then cleanupEarly m m.mbedtls.pkWriteKeyPem disk
  else makeCsr m (writeFile m.outcomes.key (m.path "device-key.pem") m.mbedtls.keyPem disk).2

def cdmEnroll (m : Machine) (files : Files) : Result :=
  match required m.env.bridgeApiUrl with
  | none => ⟨.returned (-1), files, []⟩
  | some _ =>
      if (files (m.path ".enrolled")).isSome ∧ m.outcomes.flagReadable then
        ⟨.returned 0, files, []⟩
      else makeKey m ⟨files, []⟩

/-- The request that `curl_easy_perform` is called with, in a run that comes to it. -/
def posted (m : Machine) (files : Files) : Option Sent :=
  match required m.env.bridgeApiUrl with
  | none => none
  | some _ =>
      if (files (m.path ".enrolled")).isSome ∧ m.outcomes.flagReadable then none
      else if m.mbedtls.ctrDrbgSeed ≠ 0 then none
      else if m.mbedtls.pkSetup ≠ 0 then none
      else if m.mbedtls.ecpGenKey ≠ 0 then none
      else if m.mbedtls.pkWriteKeyPem ≠ 0 then none
      else if m.mbedtls.setSubjectName m.subject ≠ 0 then none
      else if m.mbedtls.x509writeCsrPem m.subject ≠ 0 then none
      else if m.curlInit then EnrollClients.cdmEnroll m.env ⟨m.csrPem, ""⟩
      else none

/-- Whether `vEnrollTask` sets `ENROLL_DONE_BIT`. -/
def vEnrollTask (m : Machine) (files : Files) : Bool :=
  (cdmEnroll m files).ends = .returned 0

end CompleteDeviceManagement.Source.Enroll
