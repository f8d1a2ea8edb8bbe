import TemporalSdk.Common.HistoryJson

/-!
# The address of the server

The client and the worker take an address with or without a port, and both add the default port in the same way.
-/

namespace TemporalSdk

structure TLSConfig (B : Type) where
  serverNameOverride : Option JsString := none
  serverRootCACertificate : Option B := none
  clientCertPair : Option (B × B) := none

inductive TLSConfigOption (B : Type)
  | undefined
  | null
  | bool (b : Bool)
  | config (config : TLSConfig B)

def normalizeTlsConfig {B : Type} : TLSConfigOption B → Option (TLSConfig B)
  | .config config => some config
  | .bool true => some {}
  | .bool false | .null | .undefined => none

/-- Credentials that were given, or `grpc.credentials.createSsl` of certificates and a key -/
inductive ChannelCredentials (K B : Type)
  | given (credentials : K)
  | ssl (rootCerts privateKey certChain : Option B)

/-- `ConnectionOptions` of the client, where `channelArgs` are the members of an object -/
structure ConnectionOptions (K B : Type) where
  address : Option JsString
  tls : TLSConfigOption B
  credentials : Option (ChannelCredentials K B)
  channelArgs : JsonMembers

/-- `NativeConnectionOptions` of the worker, with its defaults -/
structure NativeConnectionOptions (B : Type) where
  address : JsString
  tls : TLSConfigOption B
  metadata : List (JsString × JsString)
  sdkVersion : JsString

def colon : UInt16 := 58

def defaultPort : JsString := JsString.ofAscii "7233"

/-- `let [host, port] = address.split(':', 2)` with `port || '7233'`, which stands in both packages -/
def addDefaultPort (address : JsString) : JsString :=
  match (address.splitOn colon).take 2 with
  | [host] => host ++ colon :: defaultPort
  | [host, port] => host ++ colon :: (if port = [] then defaultPort else port)
  | _ => address

section Options

variable {K B : Type}

/-- The channel arguments for a server name that is not that of the address -/
def serverNameArgs (serverNameOverride : Option JsString) : JsonMembers :=
  match serverNameOverride with
  | none | some [] => []
  | some name =>
    [(JsString.ofAscii "grpc.ssl_target_name_override", .string name),
      (JsString.ofAscii "grpc.default_authority", .string name)]

def normalizeGRPCConfig (options : ConnectionOptions K B) : Except JsError (ConnectionOptions K B) :=
  let rest : ConnectionOptions K B :=
    { options with
      address := options.address.map fun address => if address = [] then address else addDefaultPort address
      tls := .undefined
      credentials := none }
  match normalizeTlsConfig options.tls with
  | some tls =>
    if options.credentials.isSome then
      .error (.typeError "Both `tls` and `credentials` ConnectionOptions were provided")
    else
      .ok { rest with
        credentials := some (.ssl tls.serverRootCACertificate (tls.clientCertPair.map Prod.snd)
          (tls.clientCertPair.map Prod.fst))
        channelArgs := JsonMembers.spread rest.channelArgs (serverNameArgs tls.serverNameOverride) }
  | none => .ok rest

def compileConnectionOptions (options : NativeConnectionOptions B) : NativeConnectionOptions B :=
  { options with address := addDefaultPort options.address }

end Options

/-! ### Addresses -/

/-- A host name: a colon would begin a port, and a bracket an IPv6 address. -/
structure HostName where
  text : JsString
  nonempty : text ≠ []
  noColon : colon ∉ text
  noBracket : 91 ∉ text

def isHexDigit (u : UInt16) : Bool := (48 ≤ u && u ≤ 57) || (65 ≤ u && u ≤ 70) || (97 ≤ u && u ≤ 102)

/-- The groups of an IPv6 address; empty ones stand for zeros, and the last one may be an IPv4 address. -/
structure IPv6Address where
  groups : List JsString
  length : 3 ≤ groups.length
  digits : ∀ group ∈ groups, ∀ u ∈ group, isHexDigit u = true ∨ u = 46

inductive ServerHost
  | name (hostName : HostName)
  | ipv4 (a b c d : Fin 256)
  | ipv6 (address : IPv6Address)

/-- A port is written with digits. -/
structure ServerPort where
  text : JsString
  nonempty : text ≠ []
  digits : ∀ u ∈ text, 48 ≤ u ∧ u ≤ 57

structure ServerAddress where
  host : ServerHost
  port : Option ServerPort

def octetText (n : Fin 256) : JsString := JsString.ofAscii (toString n.val)

namespace ServerHost

def text : ServerHost → JsString
  | name hostName => hostName.text
  | ipv4 a b c d => List.intercalate [46] [octetText a, octetText b, octetText c, octetText d]
  | ipv6 address => 91 :: List.intercalate [colon] address.groups ++ [93]

def isIPv6 : ServerHost → Bool
  | ipv6 _ => true
  | _ => false

end ServerHost

lemma digits_defaultPort : ∀ u ∈ defaultPort, 48 ≤ u ∧ u ≤ 57 := by
  have hall : defaultPort.all (fun u => 48 ≤ u && u ≤ 57) = true := by decide
  simpa using hall

def ServerPort.default : ServerPort where
  text := defaultPort
  nonempty := by decide
  digits := digits_defaultPort

namespace ServerAddress

variable (a : ServerAddress)

def text : JsString :=
  match a.port with
  | none => a.host.text
  | some port => a.host.text ++ colon :: port.text

/-- The same host with the given port, or the default one -/
def withPort : ServerAddress := { a with port := some (a.port.getD .default) }

end ServerAddress

/-! ### Adding the port -/

section Pieces

variable {host port rest : JsString}

lemma addDefaultPort_of_host (hhost : colon ∉ host) : addDefaultPort host = host ++ colon :: defaultPort := by
  rw [addDefaultPort, List.splitOn_eq_singleton hhost]
  rfl

lemma addDefaultPort_of_port (hhost : colon ∉ host) (hport : colon ∉ port) :
    addDefaultPort (host ++ colon :: port) = host ++ colon :: if port = [] then defaultPort else port := by
  rw [addDefaultPort, List.splitOn_append_cons_self_of_not_mem hhost, List.splitOn_eq_singleton hport]
  rfl

/-- What follows a second colon is lost. -/
lemma addDefaultPort_of_rest (hhost : colon ∉ host) (hport : colon ∉ port) :
    addDefaultPort (host ++ colon :: (port ++ colon :: rest)) =
      host ++ colon :: if port = [] then defaultPort else port := by
  rw [addDefaultPort, List.splitOn_append_cons_self_of_not_mem hhost,
    List.splitOn_append_cons_self_of_not_mem hport]
  rfl

lemma exists_pieces (address : JsString) : colon ∉ address ∨
    ∃ host rest, colon ∉ host ∧ address = host ++ colon :: rest := by
  by_cases h : colon ∈ address
  · obtain ⟨host, rest, heq, hhost⟩ := List.eq_append_cons_of_mem h
    exact .inr ⟨host, rest, hhost, heq⟩
  · exact .inl h

/-- An address with its port is left as it is, whatever it was made from. -/
lemma addDefaultPort_addDefaultPort (address : JsString) :
    addDefaultPort (addDefaultPort address) = addDefaultPort address := by
  have hdefault : colon ∉ defaultPort := by decide
  have hagain : ∀ host port : JsString, colon ∉ host → colon ∉ port →
      addDefaultPort (host ++ colon :: if port = [] then defaultPort else port) =
        host ++ colon :: if port = [] then defaultPort else port := by
    intro host port hhost hport
    have hport' : colon ∉ if port = [] then defaultPort else port := by
      split
      · exact hdefault
      · exact hport
    rw [addDefaultPort_of_port hhost hport', if_neg]
    split
    · decide
    · assumption
  rcases exists_pieces address with h | ⟨host, rest, hhost, rfl⟩
  · rw [addDefaultPort_of_host h]
    exact hagain address [] h List.not_mem_nil
  · rcases exists_pieces rest with h | ⟨port, rest, hport, rfl⟩
    · rw [addDefaultPort_of_port hhost h]
      exact hagain host rest hhost h
    · rw [addDefaultPort_of_rest hhost hport]
      exact hagain host port hhost hport

end Pieces

/-! ### The parts of an address -/

lemma colon_notMem_octetText (n : Fin 256) : colon ∉ octetText n := by
  decide +revert +kernel

/-- Only IPv6 addresses have colons in them. -/
lemma ServerHost.colon_notMem_text {host : ServerHost} (h : host.isIPv6 = false) : colon ∉ host.text := by
  cases host with
  | name hostName => exact hostName.noColon
  | ipv4 a b c d =>
    intro hmem
    simp only [text, List.intercalate_cons_cons, List.intercalate_singleton, List.mem_append] at hmem
    simp [colon_notMem_octetText] at hmem
    exact absurd hmem (by decide)
  | ipv6 address => cases h

lemma ServerPort.colon_notMem_text (port : ServerPort) : colon ∉ port.text := by
  intro hmem
  exact absurd (port.digits colon hmem).2 (by decide)

namespace ServerAddress

variable (a : ServerAddress)

lemma addDefaultPort_text (h : a.host.isIPv6 = false) : addDefaultPort a.text = a.withPort.text := by
  have hhost := ServerHost.colon_notMem_text h
  unfold withPort text
  cases a.port with
  | none => exact addDefaultPort_of_host hhost
  | some port =>
    have hport := addDefaultPort_of_port hhost port.colon_notMem_text
    rw [if_neg port.nonempty] at hport
    exact hport

/-- The text of an IPv6 address up to its third group -/
lemma exists_text_of_ipv6 {address : IPv6Address} (h : a.host = .ipv6 address) :
    ∃ first ∈ address.groups, ∃ second ∈ address.groups, ∃ rest,
      a.text = (91 :: first) ++ colon :: (second ++ colon :: rest) := by
  obtain ⟨groups, hlength, hdigits⟩ := address
  obtain ⟨first, groups, rfl⟩ := List.exists_cons_of_ne_nil (List.ne_nil_of_length_pos (by omega : 0 < groups.length))
  obtain ⟨second, groups, rfl⟩ := List.exists_cons_of_ne_nil
    (List.ne_nil_of_length_pos (Nat.lt_of_succ_lt_succ (by omega : 1 < (first :: groups).length)))
  obtain ⟨third, groups, rfl⟩ := List.exists_cons_of_ne_nil
    (List.ne_nil_of_length_pos (by simp only [List.length_cons] at hlength; omega : 0 < groups.length))
  refine ⟨first, by simp, second, by simp, ?_⟩
  have hhost : a.host.text =
      (91 :: first) ++ colon :: (second ++ colon :: (List.intercalate [colon] (third :: groups) ++ [93])) := by
    rw [h, ServerHost.text, List.intercalate_cons_cons, List.intercalate_cons_cons]
    simp
  unfold text
  rw [hhost]
  cases a.port with
  | none => exact ⟨_, rfl⟩
  | some port => exact ⟨List.intercalate [colon] (third :: groups) ++ [93] ++ colon :: port.text, by simp⟩

lemma notMem_group {address : IPv6Address} {group : JsString} (h : group ∈ address.groups) {u : UInt16}
    (hu : isHexDigit u = false) (hdot : u ≠ 46) : u ∉ group := by
  intro hmem
  rcases address.digits group h u hmem with hdigit | hdigit
  · rw [hu] at hdigit
    cases hdigit
  · exact hdot hdigit

/-- The end of the bracket is lost. -/
lemma bracket_notMem_addDefaultPort {address : IPv6Address} (h : a.host = .ipv6 address) :
    (93 : UInt16) ∉ addDefaultPort a.text := by
  obtain ⟨first, hfirst, second, hsecond, rest, htext⟩ := a.exists_text_of_ipv6 h
  have hcolon : ∀ group ∈ address.groups, colon ∉ group := fun group hgroup =>
    notMem_group hgroup (by decide) (by decide)
  have hbracket : ∀ group ∈ address.groups, (93 : UInt16) ∉ group := fun group hgroup =>
    notMem_group hgroup (by decide) (by decide)
  have hopen : colon ∉ (91 : UInt16) :: first := by
    rw [List.mem_cons, not_or]
    exact ⟨by decide, hcolon first hfirst⟩
  rw [htext, addDefaultPort_of_rest hopen (hcolon second hsecond)]
  intro hmem
  simp only [List.mem_append, List.mem_cons] at hmem
  rcases hmem with (hmem | hmem) | hmem | hmem
  · exact absurd hmem (by decide)
  · exact hbracket first hfirst hmem
  · exact absurd hmem (by decide)
  · split at hmem
    · exact absurd hmem (by decide)
    · exact hbracket second hsecond hmem

lemma addDefaultPort_text_iff : addDefaultPort a.text = a.withPort.text ↔ a.host.isIPv6 = false := by
  constructor
  · intro h
    cases hhost : a.host with
    | ipv6 address =>
      have hlost := a.bracket_notMem_addDefaultPort hhost
      rw [h] at hlost
      exact absurd (by simp [withPort, text, hhost, ServerHost.text]) hlost
    | _ => rfl
  · exact a.addDefaultPort_text

lemma text_ne_nil : a.text ≠ [] := by
  have hhost : a.host.text ≠ [] := by
    cases a.host with
    | name hostName => exact hostName.nonempty
    | ipv4 => simp [ServerHost.text]
    | ipv6 => simp [ServerHost.text]
  unfold text
  cases a.port with
  | none => exact hhost
  | some port => simp

end ServerAddress

/-! ### Both sides -/

section Options

variable {K B : Type} {options config : ConnectionOptions K B}

lemma address_of_normalizeGRPCConfig (h : normalizeGRPCConfig options = .ok config) {address : JsString}
    (haddress : options.address = some address) (hne : address ≠ []) :
    config.address = some (addDefaultPort address) ∧ normalizeTlsConfig config.tls = none := by
  unfold normalizeGRPCConfig at h
  rw [haddress, Option.map_some, if_neg hne] at h
  split at h
  · split at h
    · cases h
    · obtain rfl := Except.ok.inj h
      exact ⟨rfl, rfl⟩
  · obtain rfl := Except.ok.inj h
    exact ⟨rfl, rfl⟩

lemma addDefaultPort_ne_nil {address : JsString} (hne : address ≠ []) : addDefaultPort address ≠ [] := by
  unfold addDefaultPort
  split <;> simp_all

/-- What the client has normalised has the same address when it is normalised again. -/
lemma normalizeGRPCConfig_again (h : normalizeGRPCConfig options = .ok config) {address : JsString}
    (haddress : options.address = some address) (hne : address ≠ []) :
    ∃ again, normalizeGRPCConfig config = .ok again ∧ again.address = config.address := by
  obtain ⟨hconfig, htls⟩ := address_of_normalizeGRPCConfig h haddress hne
  refine ⟨_, by rw [normalizeGRPCConfig, htls], ?_⟩
  simp only [hconfig, Option.map_some, if_neg (addDefaultPort_ne_nil hne), addDefaultPort_addDefaultPort]

/-- The client and the worker connect to the same host at the port that is given, or the default one, and this
address is left as it is, exactly where the host is no IPv6 address. -/
theorem normalizedAddress_iff (a : ServerAddress) {native : NativeConnectionOptions B}
    (hoptions : options.address = some a.text) (hnative : native.address = a.text)
    (h : normalizeGRPCConfig options = .ok config) :
    (config.address = some (compileConnectionOptions native).address ∧
        (compileConnectionOptions native).address = a.withPort.text ∧
        (∃ again, normalizeGRPCConfig config = .ok again ∧ again.address = config.address) ∧
        (compileConnectionOptions (compileConnectionOptions native)).address =
          (compileConnectionOptions native).address) ↔ a.host.isIPv6 = false := by
  have hcompile : (compileConnectionOptions native).address = addDefaultPort a.text :=
    congrArg addDefaultPort hnative
  rw [hcompile, a.addDefaultPort_text_iff]
  constructor
  · exact fun hall => hall.2.1
  · intro hhost
    have hagain : (compileConnectionOptions (compileConnectionOptions native)).address =
        addDefaultPort (addDefaultPort a.text) := congrArg addDefaultPort hcompile
    exact ⟨(address_of_normalizeGRPCConfig h hoptions a.text_ne_nil).1, hhost,
      normalizeGRPCConfig_again h hoptions a.text_ne_nil, hagain.trans (addDefaultPort_addDefaultPort _)⟩

end Options

/-! ### Two addresses -/

def optionsFor (a : ServerAddress) : ConnectionOptions Unit Unit := ⟨some a.text, .undefined, none, []⟩

def nativeOptionsFor (a : ServerAddress) : NativeConnectionOptions Unit := ⟨a.text, .undefined, [], []⟩

/-- `localhost` -/
def localhost : ServerAddress where
  host := .name ⟨JsString.ofAscii "localhost", by decide, by decide, by decide⟩
  port := none

/-- `localhost` gets the default port. -/
theorem normalizedAddress_iff_localhost :
    (compileConnectionOptions (nativeOptionsFor localhost)).address = JsString.ofAscii "localhost:7233" := by
  have hoptions : (optionsFor localhost).address = some localhost.text := rfl
  have hnative : (nativeOptionsFor localhost).address = localhost.text := rfl
  have hconfig : normalizeGRPCConfig (optionsFor localhost) = .ok (optionsFor localhost.withPort) := rfl
  exact ((normalizedAddress_iff localhost hoptions hnative hconfig).mpr rfl).2.1

/-- `[::1]:7233` -/
def loopback : ServerAddress where
  host := .ipv6 ⟨[[], [], [49]], by decide, by simp [isHexDigit]⟩
  port := some .default

/-- The loopback address is cut off at its first colon. -/
theorem not_normalizedAddress_loopback :
    loopback.text = JsString.ofAscii "[::1]:7233" ∧
      (compileConnectionOptions (nativeOptionsFor loopback)).address = JsString.ofAscii "[:7233" ∧
      (compileConnectionOptions (nativeOptionsFor loopback)).address ≠ loopback.withPort.text := by
  decide

end TemporalSdk
