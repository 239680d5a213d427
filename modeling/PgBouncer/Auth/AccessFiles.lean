/-
The HBA file and the ident file, and how a reload puts them into force.

A line of either file stands here as its tokens; the end of the list is `TOK_EOL`.  A
line that cannot be parsed is skipped.  A rule of the HBA file may name a map of the
ident file, and is skipped if there is no such map.

What the parser takes from elsewhere is a parameter: the files of names behind an `@`,
and what `inet_pton` and `strtoul` make of an address and its mask.  Running out of
memory is not modelled, so the loaders return NULL only where no file is named.
-/
import PgBouncer.Auth.Users
import PgBouncer.Auth.Hba

namespace PgBouncer.Access

/-! ### Tokens and names -/

/-- `TokType`, with the text of a token. -/
inductive Tok
  | string (s : Bytes)
  | ident (s : Bytes)
  | comma
  | fail
  deriving DecidableEq

abbrev Line := List Tok

/-- What the parser asks of the rest of the system. -/
structure Outside where
  /-- What `parse_namefile` adds to a list of names; it may refuse. -/
  nameFile : Bytes → Option HbaName
  /-- An address with a number of bits behind a slash. -/
  cidr : Bytes → Option HbaAddress
  /-- An address and a mask. -/
  addressMask : Bytes → Bytes → Option HbaAddress

/-- The text of a keyword. -/
def kw (s : String) : Bytes := s.toList.map ch

variable (o : Outside)

/-- What `parse_names` makes of one item; `is_db` is set wherever it is called. -/
def addName (hname : HbaName) : Tok → Option HbaName
  | .ident s =>
    if s = kw "all" then some { hname with all := true }
    else if s = kw "sameuser" then some { hname with sameuser := true }
    else if s = kw "samerole" then none
    else if s = kw "samegroup" then none
    else if s = kw "replication" then some { hname with replication := true }
    else if s.head? = some (ch '+') then none
    else if s.head? = some (ch '@') then
      (o.nameFile s.tail).map fun more =>
        { all := hname.all || more.all
          sameuser := hname.sameuser || more.sameuser
          replication := hname.replication || more.replication
          nameSet := hname.nameSet ++ more.nameSet }
    else some { hname with nameSet := hname.nameSet ++ [s] }
  | .string s => some { hname with nameSet := hname.nameSet ++ [s] }
  | .comma | .fail => none

/-- `parse_names`. -/
def parseNames : Line → HbaName → Option (HbaName × Line)
  | tok :: .comma :: ts, hname => (addName o hname tok).bind (parseNames ts)
  | tok :: ts, hname => (addName o hname tok).map (·, ts)
  | [], _ => none

/-! ### The ident file -/

/-- `struct Ident`: the maps with their names. -/
abbrev Ident := List (Bytes × List Mapping)

/-- `find_ident_map` and `match_map`; there may be no ident file. -/
def findIdentMap (ident : Option Ident) (mapName : Bytes) : Option (List Mapping) :=
  (ident.getD []).lookup mapName

/-- The end of `parse_ident_line`. -/
def addMapping (mapName : Bytes) (mapping : Mapping) : Ident → Ident
  | [] => [(mapName, [mapping])]
  | (name, mappings) :: maps =>
    if name = mapName then (name, mappings ++ [mapping]) :: maps
    else (name, mappings) :: addMapping mapName mapping maps

/-- The text of a token that may be a name. -/
def Tok.name? : Tok → Option Bytes
  | .ident s | .string s => some s
  | .comma | .fail => none

/-- `parse_ident_line`. -/
def parseIdentLine (ident : Ident) : Line → Option Ident
  | [] => some ident
  | .ident mapName :: systemUser :: postgresUser :: ts =>
    systemUser.name?.bind fun systemUserName =>
      if postgresUser = .ident (kw "all") then
        -- `all` is eaten, and so is a token behind it
        if ts.tail = [] then
          some (addMapping mapName ⟨systemUserName, [], true⟩ ident)
        else none
      else
        postgresUser.name?.bind fun postgresUserName =>
          if ts = [] then
            some (addMapping mapName ⟨systemUserName, postgresUserName, false⟩ ident)
          else none
  | _ => none

/-- What `auth_ident_file` leads to. -/
inductive IdentFile
  /-- No file is named. -/
  | unset
  | unreadable
  | lines (ls : List Line)
  deriving DecidableEq

/-- `ident_load_map`. -/
def identLoadMap : IdentFile → Option Ident
  | .unset => none
  | .unreadable => some []
  | .lines ls => some (ls.foldl (fun ident l => (parseIdentLine ident l).getD ident) [])

/-! ### The HBA file -/

def parseRuleType : Line → Option (RuleType × Line)
  | .ident s :: ts =>
    if s = kw "local" then some (.socket, ts)
    else if s = kw "host" then some (.host, ts)
    else if s = kw "hostssl" then some (.hostssl, ts)
    else if s = kw "hostnossl" then some (.hostnossl, ts)
    else none
  | _ => none

def parseAddress (ruleType : RuleType) : Line → Option (HbaAddress × Line)
  | ts =>
    if ruleType = .socket then some (.all, ts)
    else
      match ts with
      | .ident s :: ts =>
        if s = kw "all" then some (.all, ts)
        else if s.contains (ch '/') then (o.cidr s).map (·, ts)
        else
          match ts with
          | .ident mask :: ts => (o.addressMask s mask).map (·, ts)
          | _ => none
      | _ => none

def parseMethod : Line → Option (HbaMethod × Line)
  | .ident s :: ts =>
    if s = kw "trust" then some (.trust, ts)
    else if s = kw "reject" then some (.reject, ts)
    else if s = kw "md5" then some (.md5, ts)
    else if s = kw "password" then some (.password, ts)
    else if s = kw "peer" then some (.peer, ts)
    else if s = kw "cert" then some (.cert, ts)
    else if s = kw "scram-sha-256" then some (.scramSha256, ts)
    -- the rest of the line are the options of LDAP
    else if s = kw "ldap" then some (.ldap, [])
    else none
  | _ => none

/-- `parse_line` up to the method, with what is left of the line. -/
def parseRule (ts : Line) : Option (HbaRule × Line) := do
  let (ruleType, ts) ← parseRuleType ts
  let (dbName, ts) ← parseNames o ts {}
  let (userName, ts) ← parseNames o ts {}
  let (address, ts) ← parseAddress o ruleType ts
  let (ruleMethod, ts) ← parseMethod ts
  return ({ ruleType, address, dbName, userName, ruleMethod }, ts)

/-- `parse_map_definition` and the end of `parse_line`. -/
def parseMapDefinition (ident : Option Ident) (rule : HbaRule) : Line → Option HbaRule
  | [] => some rule
  | [.ident s] =>
    if s.take 4 = kw "map=" then
      (findIdentMap ident (s.drop 4)).map fun mappings =>
        { rule with identmap := some mappings }
    else none
  | _ => none

/-- `parse_line`: the rule of a line, if it gives one. -/
def parseLine (ident : Option Ident) (l : Line) : Option HbaRule :=
  (parseRule o l).bind fun (rule, ts) => parseMapDefinition ident rule ts

/-- `hba_load_rules`; there are no lines if the file cannot be opened. -/
def hbaLoadRules (ident : Option Ident) : Option (List Line) → List HbaRule
  | none => []
  | some ls => ls.filterMap (parseLine o ident)

/-! ### What is in force -/

/-- `parsed_ident` and `parsed_hba`. -/
structure Rules where
  parsedIdent : Option Ident := none
  parsedHba : Option (List HbaRule) := none
  deriving DecidableEq

/-- What a login is matched on. -/
structure Connection where
  addr : PgAddr
  isTls : Bool
  replication : ReplicationType
  dbname : Bytes
  username : Bytes
  deriving DecidableEq

/-- The part of `load_config` about access rules, for `auth_type = hba`. -/
def Rules.reload (r : Rules) (identFile : IdentFile) (hbaFile : Option (List Line)) : Rules :=
  let ident := (identLoadMap identFile).or r.parsedIdent
  { parsedIdent := ident, parsedHba := some (hbaLoadRules o ident hbaFile) }

end PgBouncer.Access
