/-
Passwords: what kind of secret is stored, how a client's answer is compared with it,
and the server half of a SCRAM exchange.

The functions are those of `scram.c`, with `check_client_passwd`.  SHA-256, HMAC, MD5
and the normalisation of passwords are parameters, of which only the form of their
results is used.  Memory is always there, so an allocation does not fail; the random
bytes of the server are arguments.
-/
import PgBouncer.Auth.Users
import PgBouncer.Lib.Base64
import Mathlib.Algebra.Group.Int.Defs

namespace PgBouncer

def isDigit (c : UInt8) : Bool :=
  ch '0' ≤ c && c ≤ ch '9'

def isHexDigit (c : UInt8) : Bool :=
  isDigit c || (ch 'a' ≤ c && c ≤ ch 'f')

/-- The hash functions, and `pg_saslprep`, which gives the password back when it cannot
be normalised. -/
structure Crypto where
  sha256 : Bytes → Bytes
  hmac : Bytes → Bytes → Bytes
  /-- The hexadecimal digits of an MD5 hash. -/
  md5Hex : Bytes → Bytes
  saslprep : Bytes → Bytes
  hmac_length : ∀ k b, (hmac k b).length = 32
  md5Hex_length : ∀ b, (md5Hex b).length = 32
  md5Hex_digits : ∀ b, (md5Hex b).all isHexDigit

/-- `enum` of authentication methods. -/
inductive AuthType
  | any | trust | plain | md5 | cert | hba | ldap | pam | scramSha256 | peer | reject
  deriving DecidableEq

/-- `PasswordType`. -/
inductive PasswordType
  | plaintext | md5 | scramSha256
  deriving DecidableEq

/-- `"md5"`. -/
def md5Prefix : Bytes := [ch 'm', ch 'd', ch '5']

/-- `"SCRAM-SHA-256"`. -/
def scramSha256Name : Bytes :=
  [ch 'S', ch 'C', ch 'R', ch 'A', ch 'M', ch '-', ch 'S', ch 'H', ch 'A', ch '-', ch '2',
    ch '5', ch '6']

/-! ### Stored secrets -/

/-- `strtok`: the next token, and what is behind the delimiter that ends it. -/
def strtok (delim : UInt8 → Bool) (s : Bytes) : Option (Bytes × Bytes) :=
  let s := s.dropWhile delim
  if s.isEmpty then none
  else some (s.takeWhile (!delim ·), (s.dropWhile (!delim ·)).drop 1)

/-- `strtol` to base ten of a text that has to be a number as a whole, kept in an `int`. -/
def strtol (s : Bytes) : Option Int :=
  let s := s.dropWhile isSpace
  let negative := s.head? = some (ch '-')
  let digits := if negative || s.head? = some (ch '+') then s.drop 1 else s
  if digits.isEmpty || !digits.all isDigit then none
  else
    let n : Int := digits.foldl (fun n c => 10 * n + (c.toNat - 48)) 0
    let v := if negative then -n else n
    if -2 ^ 63 ≤ v ∧ v < 2 ^ 63 then some (v.bmod (2 ^ 32)) else none

/-- A stored SCRAM secret. -/
structure ScramSecret where
  iterations : Int
  encodedSalt : Bytes
  storedKey : Bytes
  serverKey : Bytes
  deriving DecidableEq

/-- `SCRAM_SHA_256_KEY_LEN`. -/
def scramKeyLen : Nat := 32

def decodeKey (text : Bytes) : Option Bytes :=
  (Base64.decode text).filter (·.length = scramKeyLen)

/-- `parse_scram_secret`. -/
def parseScramSecret (secret : Bytes) : Option ScramSecret := do
  let (scheme, s) ← strtok (· == ch '$') secret
  let (iterations, s) ← strtok (· == ch ':') s
  let (salt, s) ← strtok (· == ch '$') s
  let (storedKey, s) ← strtok (· == ch ':') s
  if s.isEmpty then none
  if scheme ≠ scramSha256Name then none
  let iterations ← strtol iterations
  let _ ← Base64.decode salt
  let storedKey ← decodeKey storedKey
  let serverKey ← decodeKey s
  some { iterations, encodedSalt := salt, storedKey, serverKey }

/-- `MD5_PASSWD_LEN`. -/
def md5PasswdLen : Nat := 35

/-- `get_password_type`. -/
def getPasswordType (shadowPass : Bytes) : PasswordType :=
  if md5Prefix.isPrefixOf shadowPass && shadowPass.length = md5PasswdLen &&
      (shadowPass.drop 3).all isHexDigit then .md5
  else if (parseScramSecret shadowPass).isSome then .scramSha256
  else .plaintext

/-! ### Keys -/

def xorBytes (a b : Bytes) : Bytes :=
  List.zipWith (· ^^^ ·) a b

namespace Crypto

variable (c : Crypto)

/-- The iterations of `scram_SaltedPassword` behind the first. -/
def saltedRounds (password : Bytes) : Nat → Bytes → Bytes → Bytes
  | 0, _, result => result
  | n + 1, prev, result =>
    let next := c.hmac password prev
    saltedRounds password n next (xorBytes result next)

/-- `scram_SaltedPassword`. -/
def saltedPassword (password salt : Bytes) (iterations : Int) : Bytes :=
  let first := c.hmac password (salt ++ [0, 0, 0, 1])
  c.saltedRounds password (iterations - 1).toNat first first

/-- `scram_ClientKey`. -/
def clientKey (salted : Bytes) : Bytes :=
  c.hmac salted
    [ch 'C', ch 'l', ch 'i', ch 'e', ch 'n', ch 't', ch ' ', ch 'K', ch 'e', ch 'y']

/-- `scram_ServerKey`. -/
def serverKey (salted : Bytes) : Bytes :=
  c.hmac salted
    [ch 'S', ch 'e', ch 'r', ch 'v', ch 'e', ch 'r', ch ' ', ch 'K', ch 'e', ch 'y']

/-- `pg_md5_encrypt`. -/
def md5Encrypt (part1 part2 : Bytes) : Bytes :=
  md5Prefix ++ c.md5Hex (part1 ++ part2)

end Crypto

/-! ### Messages -/

/-- The value of an attribute: up to the next comma, which is taken off as well. -/
def attrValue (s : Bytes) : Bytes × Bytes :=
  (s.takeWhile (· != ch ','), (s.dropWhile (· != ch ',')).drop 1)

/-- `read_attr_value`. -/
def readAttrValue (attr : UInt8) : Bytes → Option (Bytes × Bytes)
  | a :: eq :: s => if a = attr ∧ eq = ch '=' then some (attrValue s) else none
  | _ => none

def isLetter (c : UInt8) : Bool :=
  (ch 'A' ≤ c && c ≤ ch 'Z') || (ch 'a' ≤ c && c ≤ ch 'z')

/-- `read_any_attr`. -/
def readAnyAttr : Bytes → Option (UInt8 × Bytes × Bytes)
  | a :: eq :: s => if isLetter a ∧ eq = ch '=' then some (a, attrValue s) else none
  | _ => none

/-- `is_scram_printable`. -/
def isScramPrintable (s : Bytes) : Bool :=
  s.all fun c => 0x21 ≤ c && c ≤ 0x7E && c != ch ','

/-- `ScramState`, as a server uses it. -/
structure ScramState where
  cbindFlag : UInt8 := 0
  clientNonce : Bytes := []
  clientFirstMessageBare : Bytes := []
  clientFinalMessageWithoutProof : Bytes := []
  /-- `none` until the server has spoken. -/
  serverNonce : Option Bytes := none
  serverFirstMessage : Bytes := []
  adhoc : Bool := false
  iterations : Int := 0
  encodedSalt : Bytes := []
  storedKey : Bytes := List.replicate scramKeyLen 0
  serverKey : Bytes := List.replicate scramKeyLen 0
  clientKey : Bytes := []
  deriving DecidableEq

/-- The rest of a message is attributes. -/
def onlyAttrs : Nat → Bytes → Bool
  | _, [] => true
  | 0, _ => false
  | fuel + 1, s =>
    match readAnyAttr s with
    | some (_, _, rest) => onlyAttrs fuel rest
    | none => false

/-- `read_client_first_message`. -/
def readClientFirstMessage (st : ScramState) (input : Bytes) : Option ScramState := do
  let flag :: c1 :: c2 :: bare := input | none
  if flag ≠ ch 'n' ∧ flag ≠ ch 'y' then none
  if c1 ≠ ch ',' ∨ c2 ≠ ch ',' then none
  if bare.head? = some (ch 'm') then none
  -- the user name is read and ignored, whatever it is
  let s := ((readAttrValue (ch 'n') bare).map Prod.snd).getD bare
  let (nonce, s) ← readAttrValue (ch 'r') s
  if !isScramPrintable nonce then none
  if !onlyAttrs s.length s then none
  some { st with cbindFlag := flag, clientFirstMessageBare := bare, clientNonce := nonce }

/-- The loop of `read_client_final_message` over extensions: the proof, what is behind it,
and what is left of the message when it is reached. -/
def readProof : Nat → Bytes → Option (Bytes × Bytes × Bytes)
  | 0, _ => none
  | fuel + 1, s =>
    match readAnyAttr s with
    | none => none
    | some (attr, value, rest) =>
      if attr = ch 'p' then some (value, rest, s) else readProof fuel rest

/-- `"biws"`, which is `"n,,"` encoded. -/
def cbindNone : Bytes := [ch 'b', ch 'i', ch 'w', ch 's']

/-- `"eSws"`, which is `"y,,"` encoded. -/
def cbindUnused : Bytes := [ch 'e', ch 'S', ch 'w', ch 's']

/-- `read_client_final_message`: the state, the nonce and the proof. -/
def readClientFinalMessage (st : ScramState) (input : Bytes) :
    Option (ScramState × Bytes × Bytes) := do
  let (binding, s) ← readAttrValue (ch 'c') input
  if !((binding = cbindNone ∧ st.cbindFlag = ch 'n') ∨
      (binding = cbindUnused ∧ st.cbindFlag = ch 'y')) then none
  let (nonce, s) ← readAttrValue (ch 'r') s
  let (value, rest, atProof) ← readProof s.length s
  let proof ← decodeKey value
  if !rest.isEmpty then none
  -- up to the comma in front of the proof
  let withoutProof := input.take (input.length - atProof.length - 1)
  some ({ st with clientFinalMessageWithoutProof := withoutProof }, nonce, proof)

/-! ### The exchange -/

/-- The random bytes of the server, and the configured number of iterations. -/
structure ScramEnv where
  salt : Bytes
  nonce : Bytes
  /-- The secret of this instance, for the salts of users that do not exist. -/
  mockNonce : Bytes
  /-- `cf_scram_iterations`. -/
  iterations : Int
  deriving DecidableEq

/-- `build_adhoc_scram_secret`. -/
def buildAdhocScramSecret (c : Crypto) (env : ScramEnv) (plainPassword : Bytes)
    (st : ScramState) : ScramState :=
  let salted := c.saltedPassword (c.saslprep plainPassword) env.salt env.iterations
  { st with
    adhoc := true
    iterations := env.iterations
    encodedSalt := Base64.encode env.salt
    storedKey := c.sha256 (c.clientKey salted)
    serverKey := c.serverKey salted }

/-- `build_mock_scram_secret`, with `scram_mock_salt`; the keys stay as they are. -/
def buildMockScramSecret (c : Crypto) (env : ScramEnv) (username : Bytes)
    (st : ScramState) : ScramState :=
  { st with
    iterations := env.iterations
    encodedSalt := Base64.encode ((c.sha256 (username ++ env.mockNonce)).take 16) }

/-- The keys `build_server_first_message` uses for a user, with what it caches. -/
def secretFor (c : Crypto) (env : ScramEnv) (user : Credentials) (st : ScramState) :
    Option (ScramState × Credentials) :=
  match user.verifier with
  | some v =>
    some ({ st with
      adhoc := v.scramAdhoc
      iterations := v.scramIterations
      encodedSalt := v.scramSaltKey
      storedKey := v.scramStoredKey
      serverKey := user.scramServerKey }, user)
  | none =>
    let st? : Option ScramState :=
      match getPasswordType user.passwd with
      | .scramSha256 =>
        (parseScramSecret user.passwd).map fun s =>
          { st with
            iterations := s.iterations
            encodedSalt := s.encodedSalt
            storedKey := s.storedKey
            serverKey := s.serverKey }
      | .plaintext => some (buildAdhocScramSecret c env user.passwd st)
      | .md5 => none
    st?.map fun st =>
      (st, if user.dynamicPasswd then user else
        { user with
          verifier := some
            { scramIterations := st.iterations
              scramSaltKey := st.encodedSalt
              scramStoredKey := st.storedKey
              scramAdhoc := st.adhoc }
          scramServerKey := st.serverKey })

/-- The digits of a number, as `%u` prints them. -/
def decimal (n : Int) : Bytes :=
  (Nat.toDigits 10 (n % 2 ^ 32).toNat).map ch

/-- The end of `build_server_first_message`: the nonce and the message. -/
def serverFirst (env : ScramEnv) (st : ScramState) : ScramState :=
  let nonce := Base64.encode env.nonce
  { st with
    serverNonce := some nonce
    serverFirstMessage := [ch 'r', ch '='] ++ st.clientNonce ++ nonce ++ [ch ',', ch 's', ch '='] ++
      st.encodedSalt ++ [ch ',', ch 'i', ch '='] ++ decimal st.iterations }

/-- `scram_client_first`, with `build_server_first_message`. -/
def scramClientFirst (c : Crypto) (env : ScramEnv) (user : Credentials) (st : ScramState)
    (data : Bytes) : Option (ScramState × Credentials) := do
  let st ← readClientFirstMessage st (cString data)
  if user.mockAuth then some (serverFirst env (buildMockScramSecret c env user.name st), user)
  else if getPasswordType user.passwd = .md5 then none
  else
    let (st, user) ← secretFor c env user st
    some (serverFirst env st, user)

/-- `verify_final_nonce`. -/
def verifyFinalNonce (st : ScramState) (finalNonce : Bytes) : Bool :=
  match st.serverNonce with
  | some nonce => finalNonce = st.clientNonce ++ nonce
  | none => false

/-- What both sides sign. -/
def authMessage (st : ScramState) : Bytes :=
  st.clientFirstMessageBare ++ [ch ','] ++ st.serverFirstMessage ++ [ch ','] ++
    st.clientFinalMessageWithoutProof

/-- `verify_client_proof`: the client key in a proof, if it is the right one. -/
def verifyClientProof (c : Crypto) (st : ScramState) (proof : Bytes) : Option Bytes :=
  let clientKey := xorBytes proof (c.hmac st.storedKey (authMessage st))
  if c.sha256 clientKey = st.storedKey then some clientKey else none

/-- `scram_client_final`. -/
def scramClientFinal (c : Crypto) (st : ScramState) (data : Bytes) : Option ScramState := do
  let (st, nonce, proof) ← readClientFinalMessage st (cString data)
  if !verifyFinalNonce st nonce then none
  let clientKey ← verifyClientProof c st proof
  some { st with clientKey := clientKey }

/-! ### Passwords -/

/-- `scram_verify_plain_password`. -/
def scramVerifyPlainPassword (c : Crypto) (password secret : Bytes) : Bool :=
  match parseScramSecret secret with
  | none => false
  | some s =>
    match Base64.decode s.encodedSalt with
    | none => false
    | some salt =>
      c.serverKey (c.saltedPassword (c.saslprep password) salt s.iterations) = s.serverKey

/-- `check_client_passwd`. -/
def checkClientPasswd (c : Crypto) (user : Credentials) (authType : AuthType)
    (tmpLoginSalt passwd : Bytes) : Bool :=
  if user.mockAuth then false
  -- disallow empty passwords
  else if user.passwd.isEmpty then false
  else
    match authType with
    | .plain =>
      match getPasswordType user.passwd with
      | .plaintext => user.passwd = passwd
      | .md5 => user.passwd = c.md5Encrypt passwd user.name
      | .scramSha256 => scramVerifyPlainPassword c passwd user.passwd
    | .md5 =>
      if passwd.length ≠ md5PasswdLen then false
      else
        let stored :=
          if getPasswordType user.passwd = .plaintext then c.md5Encrypt user.passwd user.name
          else user.passwd
        c.md5Encrypt (stored.drop 3) tmpLoginSalt = passwd
    | _ => false

end PgBouncer
