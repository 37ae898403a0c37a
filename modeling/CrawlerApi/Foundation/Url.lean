import CrawlerApi.Foundation.IpAddress
import Mathlib.Data.List.TakeWhile

/-!
# Splitting and joining URLs

`urllib.parse` on character strings.  Case, compatibility normalization and
`repr` go by the interpreter's tables and are given; a `ValueError` is its message.
-/

namespace CrawlerApi.Foundation.Url

structure Tables where
  lower : String → String
  nfkc : String → String
  repr : String → String

abbrev Chars := List Char

structure Partition where
  before : Chars
  found : Bool
  after : Chars
deriving DecidableEq, Repr

/-- `str.partition`. -/
def partition (sep : Char) (text : Chars) : Partition where
  before := text.takeWhile (· ≠ sep)
  found := text.contains sep
  after := (text.dropWhile (· ≠ sep)).tail

/-- `str.rpartition`; without a separator the whole text is what follows. -/
def rpartition (sep : Char) (text : Chars) : Partition :=
  let reversed := partition sep text.reverse
  ⟨reversed.after.reverse, reversed.found, reversed.before.reverse⟩

structure SplitResult where
  scheme : Chars
  netloc : Chars
  path : Chars
  query : Chars
  fragment : Chars
deriving DecidableEq, Repr

structure ParseResult extends SplitResult where
  params : Chars
deriving DecidableEq, Repr

def isSchemeChar (c : Char) : Bool := c.isAlphanum || c = '+' || c = '-' || c = '.'

def isControlOrSpace (c : Char) : Bool := decide (c.toNat ≤ 32)

def isUnsafe (c : Char) : Bool := c = '\t' || c = '\r' || c = '\n'

def usesRelative : List Chars := [
  "", "ftp", "http", "gopher", "nntp", "imap", "wais", "file", "https", "shttp", "mms",
  "prospero", "rtsp", "rtsps", "rtspu", "sftp", "svn", "svn+ssh", "ws", "wss"].map String.toList

def usesNetloc : List Chars := [
  "", "ftp", "http", "gopher", "nntp", "telnet", "imap", "wais", "file", "mms", "https", "shttp",
  "snews", "prospero", "rtsp", "rtsps", "rtspu", "rsync", "svn", "svn+ssh", "sftp", "nfs", "git",
  "git+ssh", "ws", "wss", "itms-services"].map String.toList

def usesParams : List Chars := [
  "", "ftp", "hdl", "prospero", "http", "imap", "https", "shttp", "rtsp", "rtsps", "rtspu", "sip",
  "sips", "mms", "sftp", "tel"].map String.toList

section

variable (tables : Tables)

def lowered (text : Chars) : Chars := (tables.lower (String.ofList text)).toList

def quoted (text : Chars) : String := tables.repr (String.ofList text)

def splitScheme (url scheme : Chars) : Chars × Chars :=
  let parts := partition ':' url
  match parts.before with
  | [] => (scheme, url)
  | first :: _ =>
      if parts.found ∧ first.isAlpha ∧ parts.before.all isSchemeChar then
        (lowered tables parts.before, parts.after)
      else (scheme, url)

def isNetlocChar (c : Char) : Bool := c ≠ '/' && c ≠ '?' && c ≠ '#'

def splitNetloc : Chars → Chars × Chars
  | '/' :: '/' :: rest => (rest.takeWhile isNetlocChar, rest.dropWhile isNetlocChar)
  | url => ([], url)

def isHexDigit (c : Char) : Bool := (IpAddress.hexDigit c).isSome

def isFutureAddress : Chars → Bool
  | 'v' :: rest =>
      let version := partition '.' rest
      version.found && version.before ≠ [] && version.before.all isHexDigit && version.after ≠ []
  | _ => false

def checkBracketedHost (hostname : Chars) : Except String Unit :=
  if hostname.head? = some 'v' then
    if isFutureAddress hostname then .ok () else .error "IPvFuture address is invalid"
  else
    match IpAddress.read hostname with
    | none => .error (quoted tables hostname ++ " does not appear to be an IPv4 or IPv6 address")
    | some (.v4 _) => .error "An IPv4 address cannot be in brackets"
    | some (.v6 _ _) => .ok ()

def checkBracketedNetloc (netloc : Chars) : Except String Unit :=
  let hostinfo := (rpartition '@' netloc).after
  let bracket := partition '[' hostinfo
  if bracket.found then
    let host := partition ']' bracket.after
    if bracket.before ≠ [] ∨ (host.after ≠ [] ∧ host.after.head? ≠ some ':') then
      .error "Invalid IPv6 URL"
    else checkBracketedHost tables host.before
  else checkBracketedHost tables (partition ':' hostinfo).before

def checkBrackets (netloc : Chars) : Except String Unit :=
  if netloc.contains '[' ≠ netloc.contains ']' then .error "Invalid IPv6 URL"
  else if netloc.contains '[' then checkBracketedNetloc tables netloc
  else .ok ()

def isDelimiter (c : Char) : Bool := "/?#@:".toList.contains c

def checkNetloc (netloc : Chars) : Except String Unit :=
  if netloc.all fun c => c.toNat < 128 then .ok ()
  else
    let kept := netloc.filter fun c => !"@:#?".toList.contains c
    let normalized := (tables.nfkc (String.ofList kept)).toList
    if kept = normalized then .ok ()
    else if normalized.any isDelimiter then
      .error ("netloc '" ++ String.ofList netloc ++
        "' contains invalid characters under NFKC normalization")
    else .ok ()

def urlsplit (url scheme : Chars) : Except String SplitResult :=
  let url := (url.dropWhile isControlOrSpace).filter fun c => !isUnsafe c
  let (scheme, url) := splitScheme tables url scheme
  let (netloc, url) := splitNetloc url
  match checkBrackets tables netloc with
  | .error message => .error message
  | .ok () =>
      let fragment := partition '#' url
      let query := partition '?' fragment.before
      match checkNetloc tables netloc with
      | .error message => .error message
      | .ok () => .ok ⟨scheme, netloc, query.before, query.after, fragment.after⟩

def splitParams (path : Chars) : Chars × Chars :=
  let last := rpartition '/' path
  let params := partition ';' last.after
  let directory := if last.found then last.before ++ ['/'] else []
  (directory ++ params.before, params.after)

def urlparse (url scheme : Chars) : Except String ParseResult :=
  match urlsplit tables url scheme with
  | .error message => .error message
  | .ok split =>
      if usesParams.contains split.scheme then
        let (path, params) := splitParams split.path
        .ok { split with path, params }
      else .ok { split with params := [] }

/-! ### The parts of a network location -/

structure UserInfo where
  username : Option Chars
  password : Option Chars
deriving DecidableEq, Repr

def SplitResult.userinfo (split : SplitResult) : UserInfo :=
  let parts := rpartition '@' split.netloc
  if parts.found then
    let user := partition ':' parts.before
    ⟨some user.before, if user.found then some user.after else none⟩
  else ⟨none, none⟩

def SplitResult.hostinfo (split : SplitResult) : Chars × Chars :=
  let hostinfo := (rpartition '@' split.netloc).after
  let bracket := partition '[' hostinfo
  if bracket.found then
    let host := partition ']' bracket.after
    (host.before, (partition ':' host.after).after)
  else
    let host := partition ':' hostinfo
    (host.before, host.after)

/-- The host in lower case, up to the zone of a scoped address. -/
def SplitResult.hostname (split : SplitResult) : Option Chars :=
  let host := split.hostinfo.1
  if host = [] then none
  else
    let zone := partition '%' host
    some (lowered tables zone.before ++ (if zone.found then ['%'] else []) ++ zone.after)

/-- The digits `int` reads at most. -/
def maxIntDigits : Nat := 4300

def SplitResult.port (split : SplitResult) : Except String (Option Nat) :=
  let port := split.hostinfo.2
  if port = [] then .ok none
  else
    match IpAddress.number 10 IpAddress.decimalDigit port with
    | none => .error ("Port could not be cast to integer value as " ++ quoted tables port)
    | some value =>
        if port.length > maxIntDigits then
          .error ("Exceeds the limit (4300 digits) for integer string conversion: value has " ++
            toString port.length ++
            " digits; use sys.set_int_max_str_digits() to increase the limit")
        else if value > 65535 then .error "Port out of range 0-65535"
        else .ok (some value)

/-! ### Putting a URL together -/

def urlunsplit (split : SplitResult) : Chars :=
  let url :=
    if split.netloc ≠ [] ∨ (split.scheme ≠ [] ∧ usesNetloc.contains split.scheme ∧
        split.path.take 2 ≠ ['/', '/']) then
      let path :=
        if split.path ≠ [] ∧ split.path.head? ≠ some '/' then '/' :: split.path else split.path
      ['/', '/'] ++ split.netloc ++ path
    else split.path
  (if split.scheme ≠ [] then split.scheme ++ [':'] else []) ++ url ++
    (if split.query ≠ [] then '?' :: split.query else []) ++
    (if split.fragment ≠ [] then '#' :: split.fragment else [])

def urlunparse (parsed : ParseResult) : Chars :=
  urlunsplit { parsed.toSplitResult with
    path := if parsed.params ≠ [] then parsed.path ++ [';'] ++ parsed.params else parsed.path }

def mergeSegments (base path : Chars) : List Chars :=
  let parts := base.splitOn '/'
  let directory := if parts.getLast? = some [] then parts else parts.dropLast
  match directory ++ path.splitOn '/' with
  | [] => []
  | [segment] => [segment]
  | first :: second :: rest =>
      first :: (second :: rest).dropLast.filter (· ≠ []) ++ ((second :: rest).getLast?).toList

def resolveSegments (segments : List Chars) : List Chars :=
  segments.foldl (fun resolved segment =>
    if segment = ['.', '.'] then resolved.dropLast
    else if segment = ['.'] then resolved
    else resolved ++ [segment]) []

def resolvePath (base path : Chars) : Chars :=
  let segments := if path.head? = some '/' then path.splitOn '/' else mergeSegments base path
  let resolved := resolveSegments segments
  let closed :=
    if segments.getLast? = some ['.'] ∨ segments.getLast? = some ['.', '.'] then resolved ++ [[]]
    else resolved
  let joined := List.intercalate ['/'] closed
  if joined = [] then ['/'] else joined

/-- The reference in the URL's place, read against the parts of the base. -/
def resolve (base reference : ParseResult) : ParseResult :=
  if usesNetloc.contains reference.scheme ∧ reference.netloc ≠ [] then reference
  else
    let netloc :=
      if usesNetloc.contains reference.scheme then base.netloc else reference.netloc
    if reference.path = [] ∧ reference.params = [] then
      { reference with
        netloc := netloc
        path := base.path
        params := base.params
        query := if reference.query = [] then base.query else reference.query }
    else { reference with netloc := netloc, path := resolvePath base.path reference.path }

def urljoin (base url : Chars) : Except String Chars :=
  if base = [] then .ok url
  else if url = [] then .ok base
  else
    match urlparse tables base [] with
    | .error message => .error message
    | .ok parsedBase =>
        match urlparse tables url parsedBase.scheme with
        | .error message => .error message
        | .ok reference =>
            if reference.scheme ≠ parsedBase.scheme ∨ !usesRelative.contains reference.scheme then
              .ok url
            else .ok (urlunparse (resolve parsedBase reference))

end

/-! ### Partitions of a text -/

section Partitions

variable {sep c : Char} {text before after : Chars}

theorem ne_sep (h : sep ∉ text) : ∀ c ∈ text, decide (c ≠ sep) = true :=
  fun _ hc => decide_eq_true fun heq => h (heq ▸ hc)

theorem partition_append_cons (h : sep ∉ before) (after : Chars) :
    partition sep (before ++ sep :: after) = ⟨before, true, after⟩ := by
  unfold partition
  rw [List.takeWhile_append_of_pos (ne_sep h), List.dropWhile_append_of_pos (ne_sep h)]
  simp

theorem partition_of_not_mem (h : sep ∉ text) : partition sep text = ⟨text, false, []⟩ := by
  unfold partition
  rw [List.takeWhile_eq_self_iff.mpr (ne_sep h), List.dropWhile_eq_nil_iff.mpr (ne_sep h)]
  simp [h]

theorem rpartition_append_cons (before : Chars) (h : sep ∉ after) :
    rpartition sep (before ++ sep :: after) = ⟨before, true, after⟩ := by
  have hreverse : (before ++ sep :: after).reverse = after.reverse ++ sep :: before.reverse := by
    simp
  unfold rpartition
  rw [hreverse, partition_append_cons (by simpa using h)]
  simp

theorem sep_not_mem_before : sep ∉ (partition sep text).before := fun h => by
  have hne := List.all_eq_true.mp List.all_takeWhile _ h
  simp at hne

theorem mem_iff_partition :
    c ∈ text ↔ c ∈ (partition sep text).before ∨ c = sep ∧ sep ∈ text ∨
      c ∈ (partition sep text).after := by
  by_cases hsep : sep ∈ text
  · obtain ⟨before, after, rfl, hbefore⟩ := List.eq_append_cons_of_mem hsep
    rw [partition_append_cons hbefore]
    simp
  · rw [partition_of_not_mem hsep]
    simp [hsep]

end Partitions

theorem checkBracketedHost_iff {tables : Tables} {host : Chars} (h : ':' ∉ host) :
    checkBracketedHost tables host = .ok () ↔ isFutureAddress host = true := by
  unfold checkBracketedHost
  split
  · split
    · rename_i hfuture
      exact iff_of_true rfl hfuture
    · rename_i hfuture
      exact iff_of_false nofun hfuture
  · rename_i hhead
    have hfuture : ¬ isFutureAddress host = true := by
      unfold isFutureAddress
      split
      · exact absurd rfl hhead
      · exact nofun
    refine iff_of_false ?_ hfuture
    split
    · exact nofun
    · exact nofun
    · rename_i bits scope hread
      exact absurd hread (IpAddress.read_ne_v6 h bits scope)

/-! ### No slash in a host -/

section Slashes

variable {tables : Tables} {sep c : Char} {text url scheme host : Chars} {split : SplitResult}
  {parsed : ParseResult}

theorem mem_of_mem_before (h : c ∈ (partition sep text).before) : c ∈ text :=
  (List.takeWhile_prefix _).subset h

theorem mem_of_mem_after (h : c ∈ (partition sep text).after) : c ∈ text :=
  (List.dropWhile_suffix _).subset (List.mem_of_mem_tail h)

theorem mem_of_mem_rpartition (h : c ∈ (rpartition sep text).after) : c ∈ text :=
  List.mem_reverse.mp (mem_of_mem_before (List.mem_reverse.mp h))

theorem mem_of_mem_rpartition_before (h : c ∈ (rpartition sep text).before) :
    c ∈ text :=
  List.mem_reverse.mp (mem_of_mem_after (List.mem_reverse.mp h))

theorem slash_not_mem_splitNetloc : '/' ∉ (splitNetloc url).1 := by
  unfold splitNetloc
  split
  · intro h
    have hnetloc := List.all_eq_true.mp List.all_takeWhile _ h
    exact absurd hnetloc (by decide)
  · exact List.not_mem_nil

theorem slash_not_mem_urlsplit (h : urlsplit tables url scheme = .ok split) :
    '/' ∉ split.netloc := by
  unfold urlsplit at h
  dsimp only at h
  split at h
  · cases h
  · split at h
    · cases h
    · cases h
      exact slash_not_mem_splitNetloc

theorem slash_not_mem_urlparse (h : urlparse tables url scheme = .ok parsed) :
    '/' ∉ parsed.netloc := by
  unfold urlparse at h
  split at h
  · cases h
  · rename_i split hsplit
    have hnetloc : '/' ∉ split.netloc := slash_not_mem_urlsplit hsplit
    split at h
    · cases h
      exact hnetloc
    · cases h
      exact hnetloc

theorem mem_of_mem_hostinfo (h : c ∈ split.hostinfo.1) : c ∈ split.netloc := by
  unfold SplitResult.hostinfo at h
  dsimp only at h
  split at h
  · exact mem_of_mem_rpartition (mem_of_mem_after (mem_of_mem_before h))
  · exact mem_of_mem_rpartition (mem_of_mem_before h)

theorem slash_not_mem_hostname
    (hlower : ∀ text : String, '/' ∈ (tables.lower text).toList → '/' ∈ text.toList)
    (hnetloc : '/' ∉ split.netloc) (h : split.hostname tables = some host) : '/' ∉ host := by
  unfold SplitResult.hostname at h
  dsimp only at h
  split at h
  · cases h
  · cases h
    intro hslash
    rcases List.mem_append.mp hslash with hslash | hzone
    · rcases List.mem_append.mp hslash with hbefore | hpercent
      · have hmem := hlower _ hbefore
        rw [String.toList_ofList] at hmem
        exact hnetloc (mem_of_mem_hostinfo (mem_of_mem_before hmem))
      · split at hpercent
        · exact absurd hpercent (by decide)
        · cases hpercent
    · exact hnetloc (mem_of_mem_hostinfo (mem_of_mem_after hzone))

end Slashes

end CrawlerApi.Foundation.Url
