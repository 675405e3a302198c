import Mathlib.Data.List.DropRight
import Pyronova.DecimalDigits
import Pyronova.Delimiter

/-!
# Which origins may send a request

A request that a page of another site makes a browser send carries that site's `Origin`.  The policy
admits the origins an app trusts and the one the request was sent to.  An origin is compared by its
scheme, its host in lower case and its port, the scheme's own where none is written.
-/

namespace Pyronova
namespace Csrf

/-! ## Splitting a URL -/

/-- `urllib.parse.SplitResult`. -/
structure SplitResult where
  scheme : List Char
  netloc : List Char
  path : List Char
  query : List Char
  fragment : List Char
  deriving DecidableEq, Repr

/-- What the policy asks of Python: `urlsplit`, without a result where it raises `ValueError`, and
`str.lower`. -/
structure Python where
  urlsplit : List Char → Option SplitResult
  lower : List Char → List Char
  lower_lower : ∀ text, lower (lower text) = lower text
  lower_percent : ∀ front zone,
    lower (front ++ '%' :: zone) = lower front ++ '%' :: lower zone

/-- `str.partition`, without the separator. -/
def partition (mark : Char) (text : List Char) : List Char × List Char :=
  (List.cut [mark] text).getD (text, [])

/-- The host before any zone in lower case. -/
def lowered (python : Python) (host : List Char) : List Char :=
  match List.cut ['%'] host with
  | none => python.lower host
  | some (front, zone) => python.lower front ++ '%' :: zone

namespace SplitResult

/-- `_userinfo`, if there is any. -/
def userinfo (parts : SplitResult) : Option (List Char) :=
  if '@' ∈ parts.netloc then some ((parts.netloc.rdropWhile (· != '@')).dropLast) else none

def username (parts : SplitResult) : Option (List Char) :=
  parts.userinfo.map fun userinfo => (partition ':' userinfo).1

def password (parts : SplitResult) : Option (List Char) :=
  parts.userinfo.bind fun userinfo => (List.cut [':'] userinfo).map Prod.snd

/-- `_hostinfo`: the host as it is written, and the text of a port. -/
def hostinfo (parts : SplitResult) : List Char × List Char :=
  let hostinfo := parts.netloc.rtakeWhile (· != '@')
  match List.cut ['['] hostinfo with
  | some (_, bracketed) =>
      ((partition ']' bracketed).1, (partition ':' (partition ']' bracketed).2).2)
  | none => partition ':' hostinfo

def hostname (python : Python) (parts : SplitResult) : Option (List Char) :=
  if parts.hostinfo.1 = [] then none else some (lowered python parts.hostinfo.1)

/-- The port, if one is written; nothing where `ValueError` is raised. -/
def port (parts : SplitResult) : Option (Option Nat) :=
  if parts.hostinfo.2 = [] then some none
  else if parts.hostinfo.2.all Char.isDigit ∧ DecimalDigits.value parts.hostinfo.2 ≤ 65535 then
    some (some (DecimalDigits.value parts.hostinfo.2))
  else none

end SplitResult

/-! ## The policy -/

/-- The keys of `_DEFAULT_PORTS`. -/
inductive Scheme
  | http
  | https
  deriving DecidableEq, Repr

namespace Scheme

/-- `_DEFAULT_PORTS`. -/
def defaultPort : Scheme → Nat
  | .http => 80
  | .https => 443

def ofText (text : List Char) : Option Scheme :=
  if text = "http".toList then some .http
  else if text = "https".toList then some .https
  else none

end Scheme

structure Origin where
  scheme : Scheme
  host : List Char
  port : Nat
  deriving DecidableEq, Repr

/-- `port or default_port`. -/
def orDefault (port : Option Nat) (defaultPort : Nat) : Nat :=
  match port with
  | none => defaultPort
  | some port => if port = 0 then defaultPort else port

namespace Origin

/-- `Origin.parse`. -/
def parse (python : Python) (text : List Char) : Option Origin :=
  match python.urlsplit text with
  | none => none
  | some parts =>
      match parts.port with
      | none => none
      | some port =>
          match Scheme.ofText parts.scheme, parts.hostname python with
          | some scheme, some hostname =>
              if parts.path ≠ [] ∨ parts.query ≠ [] ∨ parts.fragment ≠ [] then none
              else if parts.username ≠ none ∨ parts.password ≠ none then none
              else
                some
                  { scheme
                    host := python.lower hostname
                    port := orDefault port scheme.defaultPort }
          | _, _ => none

/-- `Origin.serves`. -/
def serves (python : Python) (origin : Origin) (host : Option (List Char)) : Bool :=
  match host with
  | none | some [] => false
  | some host =>
      match python.urlsplit ("//".toList ++ host) with
      | none => false
      | some parts =>
          match parts.port with
          | none => false
          | some port =>
              parts.hostname python == some origin.host &&
                orDefault port origin.scheme.defaultPort == origin.port

end Origin

/-- An item of `trusted_origins`. -/
inductive TrustedEntry
  | str (text : List Char)
  | other (shown : String)
  deriving DecidableEq, Repr

/-- What is given as `trusted_origins`. -/
inductive TrustedOrigins
  | str (text : List Char)
  | items (entries : List TrustedEntry)
  deriving DecidableEq, Repr

inductive PolicyError
  /-- A `TypeError`. -/
  | oneStr
  /-- A `ValueError`. -/
  | notOrigin (entry : TrustedEntry)
  deriving DecidableEq, Repr

/-- The text of an error, given how an entry is quoted. -/
def PolicyError.text (quoted : TrustedEntry → String) : PolicyError → String
  | .oneStr => "trusted_origins must be a list of origins, not one str"
  | .notOrigin entry =>
      "trusted origin " ++ quoted entry ++ " is not an origin: expected " ++
        "'http[s]://host[:port]' with no path"

structure OriginPolicy where
  trusted : List Origin
  deriving DecidableEq, Repr

namespace OriginPolicy

def parseEntry (python : Python) : TrustedEntry → Option Origin
  | .str text => Origin.parse python text
  | .other _ => none

def parseEntries (python : Python) : List TrustedEntry → Except PolicyError (List Origin)
  | [] => .ok []
  | entry :: entries =>
      match parseEntry python entry with
      | none => .error (.notOrigin entry)
      | some origin => (parseEntries python entries).map fun origins => origin :: origins

/-- `OriginPolicy.of`. -/
def of (python : Python) : TrustedOrigins → Except PolicyError OriginPolicy
  | .str _ => .error .oneStr
  | .items entries => (parseEntries python entries).map fun trusted => { trusted }

/-- `OriginPolicy.admits`. -/
def admits (python : Python) (policy : OriginPolicy) (origin host : Option (List Char)) : Bool :=
  match origin with
  | none => true
  | some text =>
      match Origin.parse python text with
      | none => false
      | some parsed => policy.trusted.contains parsed || parsed.serves python host

end OriginPolicy

/-- `PyronovaRequest::authority`: that of the target, else the `Host` field. -/
def authority (target host : Option (List Char)) : Option (List Char) :=
  match target with
  | some authority => some authority
  | none => host

/-! ## What is written -/

/-- `scheme://host[:port]`, as it is written. -/
structure Written where
  scheme : Scheme
  host : List Char
  port : Option Nat
  deriving DecidableEq, Repr

/-- The port that is written, or the scheme's. -/
def Written.effectivePort (origin : Written) : Nat := origin.port.getD origin.scheme.defaultPort

/-- What a text writes, if it writes an origin and nothing else. -/
def written (python : Python) (text : List Char) : Option Written := do
  let parts ← python.urlsplit text
  let port ← parts.port
  let scheme ← Scheme.ofText parts.scheme
  guard (parts.hostinfo.1 ≠ [] ∧ '@' ∉ parts.netloc)
  guard (parts.path = [] ∧ parts.query = [] ∧ parts.fragment = [])
  some { scheme, host := parts.hostinfo.1, port }

/-- The host and port of an authority, under a scheme. -/
def writtenAuthority (python : Python) (scheme : Scheme) (authority : Option (List Char)) :
    Option Written := do
  let text ← authority
  guard (text ≠ [])
  let parts ← python.urlsplit ("//".toList ++ text)
  let port ← parts.port
  guard (parts.hostinfo.1 ≠ [])
  some { scheme, host := parts.hostinfo.1, port }

/-- The origins that entries write. -/
def writtenEntries (python : Python) (entries : List TrustedEntry) : List Written :=
  entries.filterMap fun
    | .str text => written python text
    | .other _ => none

section Origins

variable (python : Python)

/-- One origin: the same scheme, the same host but for its case, the same port. -/
structure Same (left right : Written) : Prop where
  scheme : left.scheme = right.scheme
  host : python.lower left.host = python.lower right.host
  port : left.effectivePort = right.effectivePort

/-- Two origins that differ in their ports alone: one writes port 0, the other has the port of the
scheme. -/
structure ZeroPort (left right : Written) : Prop where
  scheme : left.scheme = right.scheme
  host : python.lower left.host = python.lower right.host
  port : left.port = some 0 ∧ right.effectivePort = right.scheme.defaultPort ∨
    right.port = some 0 ∧ left.effectivePort = left.scheme.defaultPort

/-- The zone of the host has letters in upper case. -/
def UpperZone (origin : Written) : Prop := lowered python origin.host ≠ python.lower origin.host

/-- What the policy is for: it admits a request without an origin, and one whose origin is trusted
or the request's own; and it takes no two origins for one. -/
structure Guards (entries : List TrustedEntry) (policy : OriginPolicy)
    (origin authority : Option (List Char)) : Prop where
  admits : policy.admits python origin authority = true ↔
    origin = none ∨ ∃ text own, origin = some text ∧ written python text = some own ∧
      ((∃ entry ∈ writtenEntries python entries, Same python own entry) ∨
        ∃ server ∈ writtenAuthority python own.scheme authority, Same python own server)
  trusted : ∀ text own other entry, origin = some text → written python text = some own →
    .str other ∈ entries → written python other = some entry →
      Origin.parse python text = Origin.parse python other → Same python own entry
  served : ∀ text own parsed, origin = some text → written python text = some own →
    Origin.parse python text = some parsed → parsed.serves python authority = true →
      ∃ server ∈ writtenAuthority python own.scheme authority, Same python own server

/-- Neither a port 0 nor a zone in upper case gets in the way. -/
structure Clear (entries : List TrustedEntry) (origin authority : Option (List Char)) : Prop where
  trusted : ∀ text own entry, origin = some text → written python text = some own →
    entry ∈ writtenEntries python entries → ¬ ZeroPort python own entry
  served : ∀ text own server, origin = some text → written python text = some own →
    server ∈ writtenAuthority python own.scheme authority →
      (ZeroPort python own server → UpperZone python server) ∧
        (Same python own server → UpperZone python server →
          ∃ entry ∈ writtenEntries python entries, Same python own entry)

end Origins

/-! ## What the code makes of it -/

section Proofs

variable {python : Python}

/-- The origin that is compared for what is written. -/
def Written.parsed (python : Python) (origin : Written) : Origin where
  scheme := origin.scheme
  host := python.lower origin.host
  port := orDefault origin.port origin.scheme.defaultPort

theorem userinfo_eq_none {parts : SplitResult} :
    parts.userinfo = none ↔ '@' ∉ parts.netloc := by
  rw [SplitResult.userinfo]
  split <;> simp_all

theorem lower_lowered (host : List Char) :
    python.lower (lowered python host) = python.lower host := by
  rw [lowered]
  cases found : List.cut ['%'] host with
  | none => exact python.lower_lower host
  | some parts =>
      obtain ⟨front, zone⟩ := parts
      have whole : host = front ++ '%' :: zone :=
        (List.cut_eq_some found).trans (List.append_assoc _ _ _)
      rw [python.lower_percent, python.lower_lower, whole, python.lower_percent]

/-- What is written is parsed, and nothing else is. -/
theorem parse_eq (text : List Char) :
    Origin.parse python text = (written python text).map (Written.parsed python) := by
  unfold Origin.parse written
  cases python.urlsplit text with
  | none => rfl
  | some parts =>
      simp only [Option.bind_eq_bind, Option.bind_some]
      cases parts.port with
      | none => rfl
      | some port =>
          simp only [Option.bind_some]
          cases Scheme.ofText parts.scheme with
          | none => rfl
          | some scheme =>
              simp only [Option.bind_some, SplitResult.hostname]
              by_cases host : parts.hostinfo.1 = []
              · simp [host]
              · by_cases info : '@' ∈ parts.netloc
                · have user : parts.username ≠ none := by
                    simpa [SplitResult.username, userinfo_eq_none] using info
                  simp [host, info, user]
                · have none := userinfo_eq_none.mpr info
                  by_cases rest : parts.path = [] ∧ parts.query = [] ∧ parts.fragment = []
                  · obtain ⟨path, query, fragment⟩ := rest
                    simp [host, info, path, query, fragment, SplitResult.username,
                      SplitResult.password, none, Written.parsed, lower_lowered]
                  · simp [host, info, rest]

theorem defaultPort_pos (scheme : Scheme) : 0 < scheme.defaultPort := by
  cases scheme <;> decide

theorem orDefault_eq_iff {left right : Option Nat} {defaultPort : Nat}
    (positive : 0 < defaultPort) :
    orDefault left defaultPort = orDefault right defaultPort ↔
      left.getD defaultPort = right.getD defaultPort ∨
        (left = some 0 ∧ right.getD defaultPort = defaultPort ∨
          right = some 0 ∧ left.getD defaultPort = defaultPort) := by
  have cases (port : Option Nat) : (port = some 0 ∧ orDefault port defaultPort = defaultPort) ∨
      (port ≠ some 0 ∧ orDefault port defaultPort = port.getD defaultPort ∧
        0 < port.getD defaultPort) := by
    cases port with
    | none => exact .inr ⟨fun impossible => (by cases impossible), rfl, positive⟩
    | some port =>
        rw [orDefault]
        split
        · rename_i zero
          exact .inl ⟨congrArg some zero, rfl⟩
        · rename_i written
          exact .inr ⟨fun same => written (Option.some.inj same), rfl, Nat.pos_of_ne_zero written⟩
  obtain ⟨rfl, leftIs⟩ | ⟨leftOther, leftIs, leftPos⟩ := cases left
  · obtain ⟨rfl, rightIs⟩ | ⟨rightOther, rightIs, rightPos⟩ := cases right
    · simp
    · rw [leftIs, rightIs]
      simp only [Option.getD_some, rightOther, false_and, or_false, true_and]
      omega
  · obtain ⟨rfl, rightIs⟩ | ⟨rightOther, rightIs, rightPos⟩ := cases right
    · rw [leftIs, rightIs]
      simp only [Option.getD_some, leftOther, false_and, false_or, true_and]
      omega
    · rw [leftIs, rightIs]
      simp only [leftOther, rightOther, false_and, or_false]

/-- Taken for one: the same origin, or a port 0 and the port of the scheme. -/
theorem parsed_eq_iff {left right : Written} :
    left.parsed python = right.parsed python ↔
      Same python left right ∨ ZeroPort python left right := by
  rw [Written.parsed, Written.parsed, Origin.mk.injEq]
  constructor
  · rintro ⟨scheme, host, port⟩
    rw [← scheme] at port
    obtain same | zero := (orDefault_eq_iff (defaultPort_pos _)).mp port
    · refine .inl ⟨scheme, host, same.trans ?_⟩
      rw [Written.effectivePort, scheme]
    · refine .inr ⟨scheme, host, ?_⟩
      rw [Written.effectivePort, Written.effectivePort, ← scheme]
      exact zero
  · rintro (⟨scheme, host, port⟩ | ⟨scheme, host, port⟩)
    · refine ⟨scheme, host, ?_⟩
      rw [Written.effectivePort, Written.effectivePort, ← scheme] at port
      rw [← scheme]
      exact (orDefault_eq_iff (defaultPort_pos _)).mpr (.inl port)
    · refine ⟨scheme, host, ?_⟩
      rw [Written.effectivePort, Written.effectivePort, ← scheme] at port
      rw [← scheme]
      exact (orDefault_eq_iff (defaultPort_pos _)).mpr (.inr port)

/-- Two origins whose ports are confused are not the same. -/
theorem ZeroPort.not_same {left right : Written} (zero : ZeroPort python left right) :
    ¬ Same python left right := by
  rintro ⟨scheme, -, port⟩
  obtain ⟨isZero, own⟩ | ⟨isZero, own⟩ := zero.port
  · rw [own, Written.effectivePort, isZero, Option.getD_some] at port
    exact absurd port (defaultPort_pos _).ne
  · rw [own, Written.effectivePort, isZero, Option.getD_some] at port
    exact absurd port (defaultPort_pos _).ne'

theorem scheme_of_writtenAuthority {scheme : Scheme} {authority : Option (List Char)}
    {server : Written} (written : server ∈ writtenAuthority python scheme authority) :
    server.scheme = scheme := by
  obtain ⟨text, -, written⟩ := Option.bind_eq_some_iff.mp written
  obtain ⟨-, -, written⟩ := Option.bind_eq_some_iff.mp written
  obtain ⟨parts, -, written⟩ := Option.bind_eq_some_iff.mp written
  obtain ⟨port, -, written⟩ := Option.bind_eq_some_iff.mp written
  obtain ⟨-, -, written⟩ := Option.bind_eq_some_iff.mp written
  rw [← Option.some.inj written]

/-- `serves` compares the host with its zone as it is written. -/
theorem serves_iff {origin : Origin} {authority : Option (List Char)} :
    origin.serves python authority = true ↔
      ∃ server ∈ writtenAuthority python origin.scheme authority,
        lowered python server.host = origin.host ∧
          orDefault server.port origin.scheme.defaultPort = origin.port := by
  match authority with
  | none => simp [Origin.serves, writtenAuthority]
  | some [] => simp [Origin.serves, writtenAuthority]
  | some (first :: rest) =>
      simp only [Origin.serves, writtenAuthority, Option.bind_eq_bind, Option.bind_some]
      cases python.urlsplit ("//".toList ++ first :: rest) with
      | none => simp
      | some parts =>
          simp only [Option.bind_some]
          cases parts.port with
          | none => simp
          | some port =>
              by_cases host : parts.hostinfo.1 = []
              · simp [host, SplitResult.hostname]
              · simp [host, SplitResult.hostname]

/-- An origin serves an authority if it is that of the authority under its scheme, up to the
confusion of ports and the case of a zone. -/
theorem serves_parsed_iff {own : Written} {authority : Option (List Char)} :
    (own.parsed python).serves python authority = true ↔
      ∃ server ∈ writtenAuthority python own.scheme authority,
        ¬ UpperZone python server ∧ (Same python own server ∨ ZeroPort python own server) := by
  have hosts (host : List Char) : lowered python host = python.lower own.host ↔
      lowered python host = python.lower host ∧ python.lower own.host = python.lower host := by
    constructor
    · intro same
      have whole := congrArg python.lower same
      rw [lower_lowered, python.lower_lower] at whole
      exact ⟨same.trans whole.symm, whole.symm⟩
    · rintro ⟨zone, same⟩
      exact zone.trans same.symm
  rw [serves_iff]
  refine exists_congr fun server => and_congr_right fun written => ?_
  have scheme : server.scheme = own.scheme := scheme_of_writtenAuthority written
  rw [← parsed_eq_iff, UpperZone, not_not, Written.parsed, Written.parsed, Origin.mk.injEq,
    hosts, scheme, and_assoc, eq_comm (a := orDefault server.port _)]
  simp only [true_and]

theorem parseEntries_ok {entries : List TrustedEntry} {origins : List Origin}
    (accepted : OriginPolicy.parseEntries python entries = .ok origins) :
    origins = (writtenEntries python entries).map (Written.parsed python) := by
  induction entries generalizing origins with
  | nil => exact (Except.ok.inj accepted).symm
  | cons entry entries induction =>
      rw [OriginPolicy.parseEntries] at accepted
      cases parsed : OriginPolicy.parseEntry python entry with
      | none =>
          rw [parsed] at accepted
          cases accepted
      | some origin =>
          rw [parsed] at accepted
          cases rest : OriginPolicy.parseEntries python entries with
          | error error =>
              rw [rest] at accepted
              cases accepted
          | ok others =>
              rw [rest] at accepted
              obtain rfl := Except.ok.inj accepted
              cases entry with
              | other shown => cases parsed
              | str text =>
                  rw [OriginPolicy.parseEntry, parse_eq] at parsed
                  obtain ⟨own, isWritten, rfl⟩ := Option.map_eq_some_iff.mp parsed
                  rw [writtenEntries, List.filterMap_cons]
                  simp only [isWritten]
                  rw [List.map_cons, induction rest, writtenEntries]

theorem of_ok {entries : List TrustedEntry} {policy : OriginPolicy}
    (made : OriginPolicy.of python (.items entries) = .ok policy) :
    policy.trusted = (writtenEntries python entries).map (Written.parsed python) := by
  rw [OriginPolicy.of] at made
  cases parsed : OriginPolicy.parseEntries python entries with
  | error error =>
      rw [parsed] at made
      cases made
  | ok origins =>
      rw [parsed] at made
      rw [← Except.ok.inj made]
      exact parseEntries_ok parsed

theorem mem_writtenEntries {entries : List TrustedEntry} {entry : Written} :
    entry ∈ writtenEntries python entries ↔
      ∃ text, .str text ∈ entries ∧ written python text = some entry := by
  rw [writtenEntries, List.mem_filterMap]
  constructor
  · rintro ⟨item, member, isWritten⟩
    cases item with
    | str text => exact ⟨text, member, isWritten⟩
    | other shown => cases isWritten
  · rintro ⟨text, member, isWritten⟩
    exact ⟨.str text, member, isWritten⟩

/-- What is admitted. -/
theorem admits_iff {entries : List TrustedEntry} {policy : OriginPolicy}
    {origin authority : Option (List Char)}
    (made : OriginPolicy.of python (.items entries) = .ok policy) :
    policy.admits python origin authority = true ↔
      origin = none ∨ ∃ text own, origin = some text ∧ written python text = some own ∧
        ((∃ entry ∈ writtenEntries python entries,
            Same python own entry ∨ ZeroPort python own entry) ∨
          ∃ server ∈ writtenAuthority python own.scheme authority,
            ¬ UpperZone python server ∧ (Same python own server ∨ ZeroPort python own server)) := by
  cases origin with
  | none => simp [OriginPolicy.admits]
  | some text =>
      simp only [OriginPolicy.admits, parse_eq]
      cases isWritten : written python text with
      | none => simp [isWritten]
      | some own =>
          have trusted : policy.trusted.contains (own.parsed python) = true ↔
              ∃ entry ∈ writtenEntries python entries,
                Same python own entry ∨ ZeroPort python own entry := by
            rw [List.contains_iff_mem, of_ok made, List.mem_map]
            exact exists_congr fun entry => and_congr_right fun _ =>
              eq_comm.trans parsed_eq_iff
          simp only [Option.map_some, Bool.or_eq_true, trusted, serves_parsed_iff, reduceCtorEq,
            false_or, Option.some.injEq]
          constructor
          · intro admitted
            exact ⟨text, own, rfl, isWritten, admitted⟩
          · rintro ⟨other, its, rfl, isIts, admitted⟩
            obtain rfl := Option.some.inj (isWritten.symm.trans isIts)
            exact admitted

/-- Where the requests are guarded, nothing gets in the way. -/
theorem Guards.clear {entries : List TrustedEntry} {policy : OriginPolicy}
    {origin authority : Option (List Char)}
    (made : OriginPolicy.of python (.items entries) = .ok policy)
    (guards : Guards python entries policy origin authority) :
    Clear python entries origin authority := by
  have apart : ∀ text own entry, origin = some text → written python text = some own →
      entry ∈ writtenEntries python entries → ¬ ZeroPort python own entry := by
    intro text own entry isText isWritten member zero
    obtain ⟨other, listed, otherWritten⟩ := mem_writtenEntries.mp member
    refine zero.not_same
      (guards.trusted text own other entry isText isWritten listed otherWritten ?_)
    rw [parse_eq, parse_eq, isWritten, otherWritten, Option.map_some, Option.map_some,
      parsed_eq_iff.mpr (.inr zero)]
  refine ⟨apart, ?_⟩
  intro text own server isText isWritten isServer
  refine ⟨fun zero => ?_, fun same zone => ?_⟩
  · by_contra plain
    have parsed : Origin.parse python text = some (own.parsed python) := by
      rw [parse_eq, isWritten, Option.map_some]
    have serves := serves_parsed_iff.mpr ⟨server, isServer, plain, .inr zero⟩
    obtain ⟨only, isOnly, same⟩ := guards.served text own _ isText isWritten parsed serves
    obtain rfl := Option.some.inj (isServer.symm.trans isOnly)
    exact zero.not_same same
  · have admitted := guards.admits.mpr
      (.inr ⟨text, own, isText, isWritten, .inr ⟨server, isServer, same⟩⟩)
    obtain rfl | ⟨other, its, isOther, isIts, found⟩ := (admits_iff made).mp admitted
    · cases isText
    · obtain rfl := Option.some.inj (isText.symm.trans isOther)
      obtain rfl := Option.some.inj (isWritten.symm.trans isIts)
      obtain ⟨entry, member, same | zero⟩ | ⟨only, isOnly, plain, -⟩ := found
      · exact ⟨entry, member, same⟩
      · exact absurd zero (apart text own entry isText isWritten member)
      · obtain rfl := Option.some.inj (isServer.symm.trans isOnly)
        exact absurd zone plain

/-- Where nothing gets in the way, the requests are guarded. -/
theorem Clear.guards {entries : List TrustedEntry} {policy : OriginPolicy}
    {origin authority : Option (List Char)}
    (made : OriginPolicy.of python (.items entries) = .ok policy)
    (clear : Clear python entries origin authority) :
    Guards python entries policy origin authority := by
  refine ⟨(admits_iff made).trans (or_congr_right ?_), ?_, ?_⟩
  · refine exists_congr fun text => exists_congr fun own => and_congr_right fun isText =>
      and_congr_right fun isWritten => ?_
    constructor
    · rintro (⟨entry, member, same | zero⟩ | ⟨server, isServer, plain, same | zero⟩)
      · exact .inl ⟨entry, member, same⟩
      · exact absurd zero (clear.trusted text own entry isText isWritten member)
      · exact .inr ⟨server, isServer, same⟩
      · exact absurd ((clear.served text own server isText isWritten isServer).1 zero) plain
    · rintro (⟨entry, member, same⟩ | ⟨server, isServer, same⟩)
      · exact .inl ⟨entry, member, .inl same⟩
      · by_cases zone : UpperZone python server
        · obtain ⟨entry, member, same⟩ :=
            (clear.served text own server isText isWritten isServer).2 same zone
          exact .inl ⟨entry, member, .inl same⟩
        · exact .inr ⟨server, isServer, zone, .inl same⟩
  · intro text own other entry isText isWritten listed otherWritten alike
    rw [parse_eq, parse_eq, isWritten, otherWritten, Option.map_some, Option.map_some] at alike
    obtain same | zero := parsed_eq_iff.mp (Option.some.inj alike)
    · exact same
    · have member := mem_writtenEntries.mpr ⟨other, listed, otherWritten⟩
      exact absurd zero (clear.trusted text own entry isText isWritten member)
  · intro text own parsed isText isWritten isParsed serves
    rw [parse_eq, isWritten, Option.map_some] at isParsed
    obtain rfl := Option.some.inj isParsed
    obtain ⟨server, isServer, plain, same | zero⟩ := serves_parsed_iff.mp serves
    · exact ⟨server, isServer, same⟩
    · exact absurd ((clear.served text own server isText isWritten isServer).1 zero) plain

end Proofs

/-- A policy made of entries guards a request exactly where no port 0 and no zone in upper case get
in the way: the origin is no trusted one with a port 0 in place of the scheme's or the other way
round, nor so the server's own, and a server's own with letters in upper case in its zone is
trusted. -/
theorem guards_iff_clear (python : Python) (entries : List TrustedEntry) (policy : OriginPolicy)
    (origin target host : Option (List Char))
    (made : OriginPolicy.of python (.items entries) = .ok policy) :
    Guards python entries policy origin (authority target host) ↔
      Clear python entries origin (authority target host) :=
  ⟨Guards.clear made, Clear.guards made⟩

/-- `urlsplit` of a text of visible ASCII, with any address in brackets. -/
def asciiUrlsplit (text : List Char) : Option SplitResult :=
  let schemeChar (c : Char) := c.isAlphanum || ['+', '-', '.'].contains c
  let (scheme, rest) :=
    match List.cut [':'] text with
    | some (front, back) =>
        if front.head?.any Char.isAlpha ∧ front.all schemeChar then (front.map Char.toLower, back)
        else ([], text)
    | none => ([], text)
  let inNetloc (c : Char) := !(['/', '?', '#'].contains c)
  let (netloc, rest) :=
    if "//".toList <+: rest then
      ((rest.drop 2).takeWhile inNetloc, (rest.drop 2).dropWhile inNetloc)
    else ([], rest)
  let (rest, fragment) := partition '#' rest
  let (path, query) := partition '?' rest
  some { scheme, netloc, path, query, fragment }

theorem toLower_toLower (c : Char) : c.toLower.toLower = c.toLower := by
  by_cases upper : c.val ≥ 'A'.val ∧ c.val ≤ 'Z'.val
  · have lower : c.toLower.val = c.val + 32 := congrArg Char.val (dif_pos upper)
    refine dif_neg ?_
    rw [lower, ge_iff_le, UInt32.le_iff_toNat_le, UInt32.le_iff_toNat_le]
    simp only [ge_iff_le, UInt32.le_iff_toNat_le] at upper
    simp at upper ⊢
    omega
  · have same : c.toLower = c := dif_neg upper
    rw [same, same]

def asciiPython : Python where
  urlsplit := asciiUrlsplit
  lower := List.map Char.toLower
  lower_lower := fun text => by
    rw [List.map_map]
    exact List.map_congr_left fun c _ => toLower_toLower c
  lower_percent := fun front zone => List.map_append

/-- A trusted origin is admitted with the scheme's port written. -/
theorem guards_iff_clear_port :
    Guards asciiPython [.str "https://a".toList] ⟨[⟨.https, ['a'], 443⟩]⟩
      (some "HTTPS://A:443".toList) (authority none (some "b".toList)) := by
  have entries : writtenEntries asciiPython [.str "https://a".toList] = [⟨.https, ['a'], none⟩] :=
    rfl
  have own : written asciiPython "HTTPS://A:443".toList = some ⟨.https, ['A'], some 443⟩ := rfl
  refine (guards_iff_clear asciiPython _ _ _ none _ rfl).mpr ⟨?_, ?_⟩
  · rintro text origin entry isText isWritten member ⟨-, -, port⟩
    obtain rfl := Option.some.inj isText
    obtain rfl := Option.some.inj (own.symm.trans isWritten)
    rw [entries] at member
    obtain rfl := List.mem_singleton.mp member
    exact absurd port (by decide)
  · intro text origin server isText isWritten isServer
    obtain rfl := Option.some.inj isText
    obtain rfl := Option.some.inj (own.symm.trans isWritten)
    obtain rfl := Option.some.inj isServer
    exact ⟨fun zero => absurd zero.host (by decide), fun same => absurd same.host (by decide)⟩

/-- With `http://a` trusted, port 0 of that host is admitted. -/
theorem port_zero_admitted :
    ¬ ∀ (entries : List TrustedEntry) (policy : OriginPolicy)
        (origin target host : Option (List Char)),
      OriginPolicy.of asciiPython (.items entries) = .ok policy →
        Guards asciiPython entries policy origin (authority target host) := by
  intro always
  have guards := always [.str "http://a".toList] ⟨[⟨.http, ['a'], 80⟩]⟩
    (some "http://a:0".toList) none (some "b".toList) rfl
  have entries : writtenEntries asciiPython [.str "http://a".toList] = [⟨.http, ['a'], none⟩] :=
    rfl
  have zero : written asciiPython "http://a:0".toList = some ⟨.http, ['a'], some 0⟩ := rfl
  obtain isNone | ⟨text, own, isText, isWritten, found⟩ := guards.admits.mp rfl
  · cases isNone
  · obtain rfl := Option.some.inj isText
    obtain rfl := Option.some.inj (zero.symm.trans isWritten)
    obtain ⟨entry, member, same⟩ | ⟨server, isServer, same⟩ := found
    · rw [entries] at member
      obtain rfl := List.mem_singleton.mp member
      exact absurd same.port (by decide)
    · obtain rfl := Option.some.inj isServer
      exact absurd same.host (by decide)

end Csrf
end Pyronova
