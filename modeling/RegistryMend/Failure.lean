import RegistryMend.Decimal.Integer
import RegistryMend.Json.Reader
import RegistryMend.Package.Id
import RegistryMend.Schedule.Cron

/-! # Failures

A failure is told by its cause. `Failure.message` words it; what files, archives, documents and the
database report about themselves is worded by a function given to it, which is `Fault.describe`
unless the surroundings have words of their own.
-/

namespace RegistryMend

/-- What went wrong with a file. -/
inductive FileFault where
  | missing
  | isDirectory
  /-- A file stands where a directory is needed. -/
  | notDirectory
  /-- Something else stands where a directory is to be made. -/
  | alreadyExists
  | nameTooLong
  /-- The device gives its own report. -/
  | device (report : String)
deriving DecidableEq, Repr

/-- What went wrong in an archive. -/
inductive ArchiveFault where
  /-- The first member cannot be read, or the archive ends within a member. -/
  | unreadable
  /-- The compressed data of a member is damaged. -/
  | damagedData
  /-- An extended header holds a number that cannot be read. -/
  | badNumber
  /-- A block of extents ends before its mark. -/
  | shortBlock
  /-- More bytes are asked for than can be counted. -/
  | tooLarge
  /-- More bytes are asked for than there is memory for. -/
  | outOfMemory
  /-- Too many headers stand before the header of a member. -/
  | tooManyHeaders
deriving DecidableEq, Repr

/-- What the database refuses. -/
inductive DatabaseFault where
  /-- A row would break a rule of its table. -/
  | constraint
  /-- A statement names a table that does not exist, or cannot be understood. -/
  | statement
  /-- A script holds a character with the code zero. -/
  | nullCharacter
deriving DecidableEq, Repr

/-- Why a value cannot be handed to the database, or not be used as it came from there. -/
inductive ValueFault where
  /-- A text that is no number stands in a column of numbers. -/
  | notNumber
  /-- A number does not fit into a column, or is infinite where a whole one is needed. -/
  | outOfRange
  /-- A text with a lone surrogate has no form in UTF-8. -/
  | notEncodable
deriving DecidableEq, Repr

/-- What the surroundings report. -/
inductive Fault where
  | file (fault : FileFault)
  | archive (fault : ArchiveFault)
  | database (fault : DatabaseFault)
  | value (fault : ValueFault)
  | json (error : Json.ReadError)
  /-- Bytes that are no UTF-8 text. -/
  | notText
  | cronField (field : Schedule.Field)
deriving DecidableEq, Repr

/-- Plain words for a report. -/
def Fault.describe : Fault → String
  | file .missing => "no such file"
  | file .isDirectory => "is a directory"
  | file .notDirectory => "not a directory"
  | file .alreadyExists => "already exists"
  | file .nameTooLong => "file name too long"
  | file (.device report) => report
  | archive .unreadable => "not a readable archive"
  | archive .damagedData => "damaged compressed data"
  | archive .badNumber => "invalid number in a header"
  | archive .shortBlock => "incomplete block of a header"
  | archive .tooLarge => "size out of range"
  | archive .outOfMemory => "out of memory"
  | archive .tooManyHeaders => "too many headers before a member"
  | database .constraint => "constraint failed"
  | database .statement => "statement failed"
  | database .nullCharacter => "null character in a script"
  | value .notNumber => "not a number"
  | value .outOfRange => "number out of range"
  | value .notEncodable => "text that cannot be encoded"
  | json .malformed => "malformed document"
  | json .numberTooLong => "number with too many digits"
  | json .tooDeep => "document nested too deeply"
  | notText => "not UTF-8 text"
  | cronField field => "cannot read the cron field " ++ field.name

/-- Why a tarball gives no manifest. -/
inductive ManifestProblem where
  | unreadable (fault : Fault)
  | absent
  | tooLarge (size : Int)
  | invalid (fault : Fault)
  | notObject
  | missingField (key : String)
  | badName (problem : Package.IdProblem)
deriving DecidableEq, Repr

/-- What is wrong with a manifest. -/
def ManifestProblem.message (describe : Fault → String) : ManifestProblem → String
  | unreadable fault => "Unreadable npm tarball: " ++ describe fault
  | absent => "npm tarball does not contain a package.json"
  | tooLarge size => "package.json is too large: " ++ Decimal.integerText size ++ " bytes"
  | invalid fault => "Invalid package.json: " ++ describe fault
  | notObject => "package.json must be a JSON object"
  | missingField key => "package.json is missing required field " ++ Text.quoted key
  | badName problem => problem.message

/-- Why a stored document is not taken as a package root. -/
inductive RootProblem where
  | json (error : Json.ReadError)
  | notObject
deriving DecidableEq, Repr

/-- What is wrong with a stored document. -/
def RootProblem.message (describe : Fault → String) : RootProblem → String
  | json error => describe (.json error)
  | notObject => "document is not a JSON object"

/-- Why an action fails. -/
inductive Failure where
  | packageId (problem : Package.IdProblem)
  /-- A tarball has no usable manifest. The asset is named if its manifest could be read. -/
  | manifest (problem : ManifestProblem) (asset : Option String)
  /-- A fault within an archive that is not taken as a problem of its manifest. -/
  | archive (fault : ArchiveFault)
  /-- A text that should hold a document cannot be read. -/
  | document (error : Json.ReadError)
  | rootUnreadable (packageId : String) (problem : RootProblem)
  /-- A guarded write found another revision than it expected. -/
  | conflict (packageId expected : String) (found : Option String)
  | file (fault : FileFault)
  | database (fault : DatabaseFault)
  /-- A value that the database cannot take, or that came from it and cannot be used. -/
  | value (fault : ValueFault)
  /-- The database failed within a transaction for a repository. -/
  | transaction (repository : String) (fault : DatabaseFault)
  | schemaMissing (path : String)
  | schemaEmpty (path : String)
  | cron (problem : Schedule.CronProblem)
  /-- A unit of work is used before it is opened. -/
  | notOpen
  /-- The work itself gives up. -/
  | givenUp (reason : String)
deriving DecidableEq, Repr

namespace Failure

/-- The text of a failure. -/
def message (describe : Fault → String) : Failure → String
  | packageId problem => problem.message
  | manifest problem _ => problem.message describe
  | archive fault => describe (.archive fault)
  | document error => describe (.json error)
  | rootUnreadable id problem =>
    "Unreadable package root " ++ id ++ ": " ++ problem.message describe
  | conflict id expected found =>
    "Package root " ++ id ++ " changed concurrently: expected rev " ++ Text.quoted expected ++
      ", found " ++ (found.map fun (revision : String) => Text.quoted ↑revision).getD "None"
  | file (.device report) => report
  | file fault => describe (.file fault)
  | database fault => describe (.database fault)
  | value fault => describe (.value fault)
  | transaction repository fault =>
    "Transaction failed for repository " ++ repository ++ ": " ++ describe (.database fault)
  | schemaMissing path => "Storage schema not found: " ++ path
  | schemaEmpty path => "Storage schema file is empty: " ++ path
  | cron problem => problem.message fun field => describe (.cronField field)
  | notOpen => "Unit of work is not open"
  | givenUp reason => reason

/-- Whether the failure comes from reading or writing a file. -/
def isFileFault : Failure → Bool
  | file _ => true
  | schemaMissing _ => true
  | _ => false

end Failure

end RegistryMend
