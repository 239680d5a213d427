/-
The client half of a SCRAM exchange, as pgbouncer goes through it with a backend.

The functions are those of `scram.c` above the server half.  Messages that come in are C
strings.  `read_server_first_message` keeps what it has read even if it fails further
down; its caller closes the connection then, so nothing is kept here.
-/
import PgBouncer.Auth.Login
import PgBouncer.Lib.CBuffer

namespace PgBouncer

/-- `SCRAM_RAW_NONCE_LEN`. -/
def scramRawNonceLen : Nat := 18

/-- `SCRAM_MAX_ITERATIONS`. -/
def scramMaxIterations : Int := 1000000

/-- `ScramState`, as a client uses it. -/
structure ScramClientState where
  /-- `none` until the client has spoken. -/
  clientNonce : Option Bytes := none
  clientFirstMessageBare : Bytes := []
  /-- `none` until the server has spoken. -/
  serverFirstMessage : Option Bytes := none
  serverNonce : Bytes := []
  salt : Bytes := []
  iterations : Int := 0
  /-- Kept for the signature of the server. -/
  saltedPassword : Option Bytes := none
  clientFinalMessageWithoutProof : Bytes := []
  deriving DecidableEq

variable (c : Crypto) (st : ScramClientState) (credentials : Credentials)

/-- `build_client_first_message`, with the random bytes. -/
def buildClientFirstMessage (rawNonce : Bytes) : ScramClientState × Bytes :=
  let nonce := Base64.encode rawNonce
  let result := text "n,,n=,r=" ++ nonce
  ({ st with clientNonce := some nonce, clientFirstMessageBare := result.drop 3 }, result)

/-- `read_server_first_message`. -/
def readServerFirstMessage (input : Bytes) : Option ScramClientState := do
  let clientNonce ← st.clientNonce
  let (serverNonce, s) ← readAttrValue (ch 'r') input
  if !clientNonce.isPrefixOf serverNonce then none
  let (encodedSalt, s) ← readAttrValue (ch 's') s
  let salt ← Base64.decode encodedSalt
  let (iterationsStr, s) ← readAttrValue (ch 'i') s
  let iterations ← strtol iterationsStr
  if iterations < 1 ∨ scramMaxIterations < iterations then none
  if !s.isEmpty then none
  some { st with serverFirstMessage := some input, serverNonce, salt, iterations }

/-- What both sides sign, as the client has it. -/
def ScramClientState.authMessage : Bytes :=
  st.clientFirstMessageBare ++ [ch ','] ++ st.serverFirstMessage.getD [] ++ [ch ','] ++
    st.clientFinalMessageWithoutProof

/-- `calculate_client_proof`; the password in salt is kept. -/
def calculateClientProof : ScramClientState × Bytes :=
  let (st, clientKey) :=
    if credentials.scramPassthroughValid then (st, credentials.scramClientKey)
    else
      let salted := c.saltedPassword (c.saslprep credentials.passwd) st.salt st.iterations
      ({ st with saltedPassword := some salted }, c.clientKey salted)
  (st, xorBytes clientKey (c.hmac (c.sha256 clientKey) st.authMessage))

/-- `build_client_final_message`.  The text goes into a buffer of 512 bytes; the proof is
written behind it unchecked, which `none` stands for as well if there is no room. -/
def buildClientFinalMessage : Option (ScramClientState × Bytes) :=
  let buf := (text "c=biws,r=" ++ st.serverNonce).take 511
  let (st, proof) :=
    calculateClientProof c { st with clientFinalMessageWithoutProof := buf } credentials
  let buf := buf ++ text ",p="
  let result := buf ++ Base64.encode proof
  if 512 ≤ result.length then none else some (st, result)

/-- `pg_b64_enc_len`. -/
def pgB64EncLen (srclen : Nat) : Nat := (srclen + 2) / 3 * 4

/-- `build_client_final_message` with what it does to its buffer, which has some bytes of the
stack in it at first. -/
def buildClientFinalMessageIn (stack : Vector UInt8 512) (st : ScramClientState)
    (credentials : Credentials) : CBuffer × Option (ScramClientState × Bytes) :=
  let buf := CBuffer.snprintf { bytes := stack.toList } (text "c=biws,r=" ++ st.serverNonce)
  let (st, proof) :=
    calculateClientProof c { st with clientFinalMessageWithoutProof := buf.string } credentials
  let (buf, len) := buf.strlcat (text ",p=")
  if buf.size ≤ len then (buf, none)
  else
    let encoded := Base64.encode proof
    -- `pg_b64_encode` is told how long the text will be, and not what room there is.
    if pgB64EncLen scramKeyLen < encoded.length then (buf, none)
    else
      let buf := buf.putString len encoded
      (buf, some (st, buf.string))

/-- `read_server_final_message`: the signature.  What is behind it is only logged. -/
def readServerFinalMessage (input : Bytes) : Option Bytes :=
  if input.head? = some (ch 'e') then none
  else (readAttrValue (ch 'v') input).bind fun (signature, _) => decodeKey signature

/-- `verify_server_signature`.  Without the password in salt the source has no key to work
with; that is `false` here. -/
def verifyServerSignature (serverSignature : Bytes) : Bool :=
  let serverKey :=
    if credentials.scramPassthroughValid then some credentials.scramServerKey
    else st.saltedPassword.map c.serverKey
  serverKey.any fun key => c.hmac key st.authMessage = serverSignature

end PgBouncer
