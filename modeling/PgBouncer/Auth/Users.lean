/-
The users pgbouncer knows, and the auth_file they come from.

A `PgCredentials` object is found through one of several trees: the global users,
the users an auth_query has returned for a database, the PAM users, and the user a
database forces on its clients.  Here `CredRef` says which object is meant, and
`Users` holds them all; pointers to credentials are such references.

`held` is not a field of the source.  It keeps every value the password has had, for
statements about what a login was checked against.
-/
import PgBouncer.Proto

namespace PgBouncer

/-- A character of a message or of a file. -/
def ch (c : Char) : UInt8 := c.toNat.toUInt8

/-- The text of a message. -/
def text (s : String) : Bytes := s.toList.map ch

/-- The C string at the start of a buffer. -/
def cString (b : Bytes) : Bytes := b.takeWhile (· != 0)

/-- `MAX_USERNAME`. -/
def maxUsername : Nat := 128

/-- `MAX_PASSWORD`. -/
def maxPassword : Nat := 65531

/-- What `scram_verifier_cached` guards, the ServerKey apart. -/
structure CachedVerifier where
  scramIterations : Int
  scramSaltKey : Bytes
  scramStoredKey : Bytes
  scramAdhoc : Bool
  deriving DecidableEq

/-- `PgCredentials`. -/
structure Credentials where
  name : Bytes
  passwd : Bytes := []
  /-- Not a real user, only there to be refused. -/
  mockAuth : Bool := false
  /-- The password has to be fetched for every login. -/
  dynamicPasswd : Bool := false
  /-- `none` while `scram_verifier_cached` is false. -/
  verifier : Option CachedVerifier := none
  /-- Belongs to the cached verifier and to the keys passed through to the backend. -/
  scramServerKey : Bytes := []
  scramClientKey : Bytes := []
  scramPassthroughValid : Bool := false
  /-- Every value `passwd` has had. -/
  held : List Bytes := []
  deriving DecidableEq

/-- Write the password. -/
def Credentials.setPasswd (c : Credentials) (passwd : Bytes) : Credentials :=
  { c with passwd := passwd, held := passwd :: c.held }

/-- Which credentials object is meant. -/
inductive CredRef
  /-- The credentials of a global user. -/
  | user (name : Bytes)
  /-- Returned by an auth_query for a database. -/
  | dynamic (db name : Bytes)
  | pam (name : Bytes)
  /-- `forced_user_credentials` of a database. -/
  | forced (db : Bytes)
  deriving DecidableEq

structure Users where
  find : CredRef → Option Credentials

namespace Users

variable (u : Users)

def set (r : CredRef) (c : Credentials) : Users :=
  ⟨Function.update u.find r (some c)⟩

/-- Change the object `r`, if it exists. -/
def modify (r : CredRef) (f : Credentials → Credentials) : Users :=
  match u.find r with
  | some c => u.set r (f c)
  | none => u

/-- `update_global_user_passwd`. -/
def updateGlobalUserPasswd (name passwd : Bytes) : Users :=
  u.modify (.user name) fun c => { c.setPasswd passwd with dynamicPasswd := passwd.isEmpty }

/-- `find_or_add_new_global_user`, with the empty password for none. -/
def findOrAddNewGlobalUser (name passwd : Bytes) : Users :=
  match u.find (.user name) with
  | some _ => u
  | none => (u.set (.user name) { name := name }).updateGlobalUserPasswd name passwd

/-- `add_dynamic_credentials`. -/
def addDynamicCredentials (db name passwd : Bytes) : Users :=
  let u := match u.find (.dynamic db name) with
    | some _ => u
    | none => (u.set (.dynamic db name) { name := name }).findOrAddNewGlobalUser name []
  u.modify (.dynamic db name) fun c => { c.setPasswd passwd with dynamicPasswd := true }

/-- `add_pam_credentials`. -/
def addPamCredentials (name : Bytes) : Users :=
  match u.find (.pam name) with
  | some _ => u
  | none => (u.set (.pam name) { name := name, held := [[]] }).findOrAddNewGlobalUser name []

/-! ### The auth_file -/

/-- `disable_users`. -/
def disableUsers : Users :=
  ⟨fun r =>
    match r with
    | .user name => (u.find (.user name)).map fun c => c.setPasswd []
    | r => u.find r⟩

end Users

/-- `find_quote` with `start` false: the text up to the closing quote, and what is behind
it. -/
def findQuote : Bytes → Option (Bytes × Bytes)
  | [] => none
  | c :: rest =>
    if c = ch '"' then
      match rest with
      | c' :: rest' =>
        if c' = ch '"' then (findQuote rest').map fun x => (c :: c' :: x.1, x.2)
        else some ([], rest)
      | [] => some ([], [])
    else (findQuote rest).map fun x => (c :: x.1, x.2)

/-- `copy_quoted`: of a doubled quote one stays. -/
def copyQuoted : Bytes → Bytes
  | [] => []
  | c :: rest =>
    if c = ch '"' then
      match rest with
      | c' :: rest' => c' :: copyQuoted rest'
      | [] => []
    else c :: copyQuoted rest

/-- `isspace`. -/
def isSpace (c : UInt8) : Bool :=
  c == ch ' ' || (9 ≤ c && c ≤ 13)

/-- One line of the file that names a user: the user, the password, and the rest of the
file.  `none` if the file is broken there. -/
def authFileLine (p : Bytes) : Option ((Bytes × Bytes) × Bytes) := do
  let (user, p) ← findQuote p
  if user.length ≥ maxUsername then none
  match p.dropWhile (· != ch '"') with
  | [] => none
  | _ :: p =>
    let (password, p) ← findQuote p
    if password.length ≥ maxPassword then none
    some ((copyQuoted user, copyQuoted password), p)

/-- The loop of `load_auth_file`: the entries up to the end or to the first broken line.
Every turn takes something off the text. -/
def authFileEntries : Nat → Bytes → List (Bytes × Bytes)
  | 0, _ => []
  | fuel + 1, p =>
    match p.dropWhile isSpace with
    | [] => []
    | c :: rest =>
      if c = ch ';' then authFileEntries fuel (rest.dropWhile (· != ch '\n'))
      else if c = ch '"' then
        match authFileLine rest with
        | none => []
        | some (entry, p) => entry :: authFileEntries fuel (p.dropWhile (· != ch '\n'))
      else []

/-- The users and passwords of an auth_file. -/
def authFileUsers (file : Bytes) : List (Bytes × Bytes) :=
  authFileEntries (cString file).length (cString file)

namespace Users

/-- `unquote_add_authfile_user`, behind the unquoting. -/
def addAuthfileUser (u : Users) (name passwd : Bytes) : Users :=
  let u := u.findOrAddNewGlobalUser name passwd
  let u := match u.find (.user name) with
    | some c => if c.passwd ≠ passwd then u.updateGlobalUserPasswd name passwd else u
    | none => u
  u.modify (.user name) fun c => { c with dynamicPasswd := false, verifier := none }

/-- `load_auth_file` of a file that can be read. -/
def loadAuthFile (u : Users) (file : Bytes) : Users :=
  (authFileUsers file).foldl (fun u entry => u.addAuthfileUser entry.1 entry.2) u.disableUsers

end Users

end PgBouncer
