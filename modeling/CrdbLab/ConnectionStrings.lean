import CrdbLab.Lib.Connection
import CrdbLab.Lib.Fallible
import CrdbLab.Testbed
import Mathlib.Data.List.Nodup

/-!
The connection strings of the testbed.

The generator gets one that names a single host, the audit writer and the probe one that names
every node. Each is the text of an address, in which the password is percent-encoded.
-/

namespace CrdbLab.ConnectionStrings

open CrdbLab.Lib CrdbLab.Lib.Connection CrdbLab.Lib.Percent CrdbLab.Testbed

def pgSqlPort : ℕ := 5432

/-- The client node's pgbouncer. -/
def pgGeneratorHostport : List Char := "127.0.0.1:6432".toList

/-- The text of a whole number. -/
def digits (n : ℕ) : List Char := Nat.toDigits 10 n

def quotePassword (password : String) : List Char := quote password.toUTF8.toList

def pgGeneratorDsn (database : List Char) (password : String) : List Char :=
  "postgresql://root:".toList ++ quotePassword password ++ '@' :: pgGeneratorHostport ++
    '/' :: database ++ "?sslmode=disable".toList

/-- The gateway goes first because it is the designated primary. -/
def ordered (topology : Topology) : Except TopologyError (List Node) := do
  let gateway ← gateway topology
  pure (gateway :: topology.nodes.filter fun n => n.host ≠ gateway.host)

def hostPorts (port : Node → ℕ) (nodes : List Node) : List Char :=
  [','].intercalate (nodes.map fun node => node.host.toList ++ ':' :: digits (port node))

def pgDirectDsn (topology : Topology) (database : List Char) (password : String) :
    Except TopologyError (List Char) := do
  let nodes ← ordered topology
  pure ("postgresql://root:".toList ++ quotePassword password ++
    '@' :: hostPorts (fun _ => pgSqlPort) nodes ++ '/' :: database ++
    ("?sslmode=disable&target_session_attrs=read-write&connect_timeout=2&keepalives=1" ++
      "&keepalives_idle=2&keepalives_interval=2&keepalives_count=3" ++
      "&tcp_user_timeout=10000").toList)

-- each node's own SQL port
variable (sqlPort : Node → ℕ)

/-- What is under test. -/
structure Target where
  database : List Char
  engine : String
  nodes : List Node := []
  password : Option String := none

def Target.dbUri (target : Target) : List Char :=
  if target.engine = "postgresql" then
    pgGeneratorDsn target.database (target.password.getD "")
  else
    let gateway := target.nodes.find? Node.gateway
    let host := (gateway.map Node.host).getD "crdb-gcp-1"
    let port := (gateway.map sqlPort).getD 26257
    "postgresql://root@".toList ++ host.toList ++ ':' :: digits port ++ '/' :: target.database ++
      "?sslmode=disable".toList

/-- The connection string of a chaos run's generator: on CockroachDB a node that is not the
target of the fault. -/
def workloadUri (engine : String) (topology : Topology) (faultTarget : Node)
    (database : List Char) (pgPassword : String) : Except TopologyError (List Char) :=
  if engine = "postgresql" then .ok (pgGeneratorDsn database pgPassword)
  else do
    let admin ← match topology.nodes.find? fun n => n.name ≠ faultTarget.name with
      | some n => pure n
      | none => gateway topology
    pure ("postgresql://root@".toList ++ admin.host.toList ++ ':' :: digits (sqlPort admin) ++
      '/' :: database ++ "?sslmode=disable".toList)

/-- The connection string of the audit writer and of the probe. -/
def auditDsn (engine : String) (topology : Topology) (database : List Char)
    (pgPassword : String) : Except TopologyError (List Char) :=
  if engine = "postgresql" then pgDirectDsn topology database pgPassword
  else .ok ("postgresql://root@".toList ++ hostPorts sqlPort topology.nodes ++ '/' :: database ++
    "?sslmode=disable".toList)

/-! ### What the connection strings say -/

/-- The address of the local pgbouncer. -/
def generatorAddress (database : List Char) (password : String) : Address where
  user := "root".toList
  password := some password.toUTF8.toList
  hosts := [("127.0.0.1".toList, digits 6432)]
  database := database
  options := [("sslmode".toList, "disable".toList)]

/-- The address of one node, without a password. -/
def nodeAddress (host : List Char) (port : ℕ) (database : List Char) : Address where
  user := "root".toList
  password := none
  hosts := [(host, digits port)]
  database := database
  options := [("sslmode".toList, "disable".toList)]

/-- A number that can be that of a port. -/
def PortNumber (n : ℕ) : Prop := 1 ≤ n ∧ n ≤ 65535

instance (n : ℕ) : Decidable (PortNumber n) := inferInstanceAs (Decidable (_ ∧ _))

lemma PortNumber.isPort {n : ℕ} (h : PortNumber n) : IsPort (digits n) := ⟨n, h.1, h.2, rfl⟩

lemma wellFormed_generatorAddress {database : List Char} (h : IsName database) {password : String}
    (hpassword : IsPassword password.toUTF8.toList) :
    WellFormed (generatorAddress database password) where
  user := (by decide : IsName "root".toList)
  password := fun bytes hb => Option.some.inj hb ▸ hpassword
  hosts := by
    intro e he
    rw [List.mem_singleton.mp he]
    exact ⟨(by decide : IsName "127.0.0.1".toList), (by decide : PortNumber 6432).isPort⟩
  someHost := List.cons_ne_nil _ _
  database := h
  options := by
    intro e he
    rw [List.mem_singleton.mp he]
    decide
  distinct := List.nodup_singleton _
  someOption := List.cons_ne_nil _ _

lemma wellFormed_nodeAddress {host database : List Char} (hhost : IsName host)
    (h : IsName database) {port : ℕ} (hport : PortNumber port) :
    WellFormed (nodeAddress host port database) where
  user := (by decide : IsName "root".toList)
  password := fun bytes hb => by cases hb
  hosts := by
    intro e he
    rw [List.mem_singleton.mp he]
    exact ⟨hhost, hport.isPort⟩
  someHost := List.cons_ne_nil _ _
  database := h
  options := by
    intro e he
    rw [List.mem_singleton.mp he]
    decide
  distinct := List.nodup_singleton _
  someOption := List.cons_ne_nil _ _

lemma userPart : "postgresql://root:".toList = scheme ++ ("root".toList ++ [':']) := by
  decide

lemma userOnly : "postgresql://root@".toList = scheme ++ ("root".toList ++ ['@']) := by
  decide

lemma sslmodePart : "?sslmode=disable".toList =
    '?' :: ['&'].intercalate ([("sslmode".toList, "disable".toList)].map (joined '=')) := by
  decide

/-- A connection string of the superuser with a password. -/
lemma passwordText {a : Address} {bytes : List UInt8} {hostport options : List Char}
    (hpassword : a.password = some bytes)
    (huser : "postgresql://root:".toList = scheme ++ (a.user ++ [':']))
    (hhosts : hostport = [','].intercalate (a.hosts.map (joined ':')))
    (hoptions : options = '?' :: ['&'].intercalate (a.options.map (joined '='))) :
    "postgresql://root:".toList ++ quote bytes ++ '@' :: hostport ++ '/' :: a.database ++ options =
      text a := by
  rw [huser, hhosts, hoptions]
  exact text_of_password hpassword

lemma pgGeneratorDsn_eq (database : List Char) (password : String) :
    pgGeneratorDsn database password = text (generatorAddress database password) := by
  have hhost : pgGeneratorHostport =
      [','].intercalate ([("127.0.0.1".toList, digits 6432)].map (joined ':')) := by decide
  exact passwordText (a := generatorAddress database password) rfl userPart hhost sslmodePart

lemma nodeUri_eq (host database : List Char) (port : ℕ) :
    "postgresql://root@".toList ++ host ++ ':' :: digits port ++ '/' :: database ++
      "?sslmode=disable".toList = text (nodeAddress host port database) := by
  have hhost : host ++ ':' :: digits port =
      [','].intercalate ([(host, digits port)].map (joined ':')) := by
    rw [List.map_singleton, List.intercalate_singleton, joined]
  rw [List.append_assoc _ host, hhost]
  calc _ = (scheme ++ ("root".toList ++ ['@'])) ++
          [','].intercalate ([(host, digits port)].map (joined ':')) ++ '/' :: database ++
          '?' :: ['&'].intercalate ([("sslmode".toList, "disable".toList)].map (joined '=')) :=
        congrArg₂ (fun user options => user ++
          [','].intercalate ([(host, digits port)].map (joined ':')) ++ '/' :: database ++ options)
          userOnly sslmodePart
    _ = text (nodeAddress host port database) :=
        text_of_no_password (a := nodeAddress host port database) rfl

/-- What a target's connection string says. -/
def Target.address (target : Target) : Address :=
  if target.engine = "postgresql" then
    generatorAddress target.database (target.password.getD "")
  else
    let gateway := target.nodes.find? Node.gateway
    nodeAddress ((gateway.map Node.host).getD "crdb-gcp-1").toList
      ((gateway.map sqlPort).getD 26257) target.database

/-- The names of the target are plain, its ports in range, and its password can be given. -/
structure Target.Plain (target : Target) : Prop where
  database : IsName target.database
  nodes : ∀ n ∈ target.nodes, IsName n.host.toList ∧ PortNumber (sqlPort n)
  password : target.engine = "postgresql" → IsPassword (target.password.getD "").toUTF8.toList

lemma dbUri_eq {target : Target} (h : target.Plain sqlPort) :
    target.dbUri sqlPort = text (target.address sqlPort) ∧ WellFormed (target.address sqlPort) := by
  unfold Target.dbUri Target.address
  split
  · next hengine =>
    exact ⟨pgGeneratorDsn_eq _ _, wellFormed_generatorAddress h.database (h.password hengine)⟩
  · have hgateway : ∀ found, target.nodes.find? Node.gateway = found →
        IsName ((found.map Node.host).getD "crdb-gcp-1").toList ∧
          PortNumber ((found.map sqlPort).getD 26257) := by
      intro found hfind
      cases found with
      | none => exact ⟨(by decide : IsName "crdb-gcp-1".toList), (by decide : PortNumber 26257)⟩
      | some n => exact h.nodes n (List.mem_of_find?_eq_some hfind)
    obtain ⟨hhost, hport⟩ := hgateway _ rfl
    exact ⟨nodeUri_eq _ _ _, wellFormed_nodeAddress hhost h.database hport⟩

/-- The nodes by host and port. -/
def hostsOf (port : Node → ℕ) (nodes : List Node) : List (List Char × List Char) :=
  nodes.map fun node => (node.host.toList, digits (port node))

lemma hostPorts_eq (port : Node → ℕ) (nodes : List Node) :
    hostPorts port nodes = [','].intercalate ((hostsOf port nodes).map (joined ':')) := by
  rw [hostPorts, hostsOf, List.map_map]
  rfl

/-- The options of a connection that goes to the nodes directly. -/
def directOptions : List (List Char × List Char) :=
  [("sslmode", "disable"), ("target_session_attrs", "read-write"), ("connect_timeout", "2"),
    ("keepalives", "1"), ("keepalives_idle", "2"), ("keepalives_interval", "2"),
    ("keepalives_count", "3"), ("tcp_user_timeout", "10000")].map
      fun e => (String.toList e.1, String.toList e.2)

lemma options_sslmode : ∀ e ∈ [("sslmode".toList, "disable".toList)], e ∈ directOptions := by
  decide

lemma options_address (target : Target) :
    ∀ e ∈ (target.address sqlPort).options, e ∈ directOptions := by
  unfold Target.address
  split
  · exact options_sslmode
  · exact options_sslmode

/-- The address of all nodes of PostgreSQL. -/
def directAddress (nodes : List Node) (database : List Char) (password : String) : Address where
  user := "root".toList
  password := some password.toUTF8.toList
  hosts := hostsOf (fun _ => pgSqlPort) nodes
  database := database
  options := directOptions

/-- The address of all nodes of CockroachDB. -/
def nodesAddress (nodes : List Node) (database : List Char) : Address where
  user := "root".toList
  password := none
  hosts := hostsOf sqlPort nodes
  database := database
  options := [("sslmode".toList, "disable".toList)]

lemma gateway_mem {topology : Topology} {g : Node} (h : gateway topology = .ok g) :
    g ∈ topology.nodes := by
  unfold gateway at h
  split at h
  · next node hfilter =>
    rw [← Except.ok.inj h]
    exact List.mem_of_mem_filter (hfilter ▸ List.mem_singleton_self node)
  · cases h

/-- The gateway comes first, and no node is left out or named twice. -/
lemma ordered_spec {topology : Topology} {nodes : List Node}
    (h : ordered topology = .ok nodes) (hdistinct : (topology.nodes.map Node.host).Nodup) :
    nodes.Perm topology.nodes ∧ ∃ g, gateway topology = .ok g ∧ nodes.head? = some g := by
  unfold ordered at h
  cases hgateway : gateway topology with
  | error e =>
    rw [hgateway] at h
    cases h
  | ok g =>
    rw [hgateway] at h
    have hnodes : nodes = g :: topology.nodes.filter fun n => n.host ≠ g.host :=
      (Except.ok.inj h).symm
    have hmem := gateway_mem hgateway
    have herase : topology.nodes.filter (fun n => n.host ≠ g.host) = topology.nodes.erase g := by
      rw [List.Nodup.erase_eq_filter (List.Nodup.of_map _ hdistinct)]
      refine List.filter_congr fun n hn => ?_
      have hinj : n.host = g.host ↔ n = g :=
        ⟨fun he => List.inj_on_of_nodup_map hdistinct hn hmem he, fun he => he ▸ rfl⟩
      by_cases he : n = g
      · simp [he]
      · simp [he, mt hinj.mp he]
    refine ⟨?_, g, rfl, by rw [hnodes, List.head?_cons]⟩
    rw [hnodes, herase]
    exact (List.perm_cons_erase hmem).symm

/-- The hosts of the nodes are plain, and their ports in range. -/
def PlainNodes (port : Node → ℕ) (nodes : List Node) : Prop :=
  ∀ n ∈ nodes, IsName n.host.toList ∧ PortNumber (port n)

lemma plain_hostsOf {port : Node → ℕ} {nodes : List Node} (h : PlainNodes port nodes) :
    ∀ e ∈ hostsOf port nodes, IsName e.1 ∧ IsPort e.2 := by
  intro e he
  obtain ⟨n, hn, rfl⟩ := List.mem_map.mp he
  exact ⟨(h n hn).1, (h n hn).2.isPort⟩

lemma wellFormed_directAddress {nodes : List Node} {database : List Char}
    (hnodes : ∀ n ∈ nodes, IsName n.host.toList) (hne : nodes ≠ []) (hdatabase : IsName database)
    {password : String} (hpassword : IsPassword password.toUTF8.toList) :
    WellFormed (directAddress nodes database password) where
  user := (by decide : IsName "root".toList)
  password := fun bytes hb => Option.some.inj hb ▸ hpassword
  hosts := plain_hostsOf fun n hn => ⟨hnodes n hn, (by decide : PortNumber pgSqlPort)⟩
  someHost := mt List.map_eq_nil_iff.mp hne
  database := hdatabase
  options := (by decide : ∀ e ∈ directOptions, IsName e.1 ∧ IsName e.2)
  distinct := (by decide : (directOptions.map Prod.fst).Nodup)
  someOption := List.cons_ne_nil _ _

variable {sqlPort} in
lemma wellFormed_nodesAddress {nodes : List Node} {database : List Char}
    (hnodes : PlainNodes sqlPort nodes) (hne : nodes ≠ []) (hdatabase : IsName database) :
    WellFormed (nodesAddress sqlPort nodes database) where
  user := (by decide : IsName "root".toList)
  password := fun bytes hb => by cases hb
  hosts := plain_hostsOf hnodes
  someHost := mt List.map_eq_nil_iff.mp hne
  database := hdatabase
  options := by
    intro e he
    rw [List.mem_singleton.mp he]
    decide
  distinct := List.nodup_singleton _
  someOption := List.cons_ne_nil _ _

lemma directPart :
    ("?sslmode=disable&target_session_attrs=read-write&connect_timeout=2&keepalives=1" ++
      "&keepalives_idle=2&keepalives_interval=2&keepalives_count=3" ++
      "&tcp_user_timeout=10000").toList =
    '?' :: ['&'].intercalate (directOptions.map (joined '=')) := by
  decide +kernel

lemma directText (nodes : List Node) (database : List Char) (password : String) :
    "postgresql://root:".toList ++ quotePassword password ++
      '@' :: hostPorts (fun _ => pgSqlPort) nodes ++ '/' :: database ++
      ("?sslmode=disable&target_session_attrs=read-write&connect_timeout=2&keepalives=1" ++
        "&keepalives_idle=2&keepalives_interval=2&keepalives_count=3" ++
        "&tcp_user_timeout=10000").toList = text (directAddress nodes database password) := by
  exact passwordText (a := directAddress nodes database password) rfl userPart
    (hostPorts_eq (fun _ => pgSqlPort) nodes) directPart

lemma nodesText (nodes : List Node) (database : List Char) :
    "postgresql://root@".toList ++ hostPorts sqlPort nodes ++ '/' :: database ++
      "?sslmode=disable".toList = text (nodesAddress sqlPort nodes database) := by
  rw [hostPorts_eq]
  calc _ = (scheme ++ ("root".toList ++ ['@'])) ++
          [','].intercalate ((hostsOf sqlPort nodes).map (joined ':')) ++ '/' :: database ++
          '?' :: ['&'].intercalate ([("sslmode".toList, "disable".toList)].map (joined '=')) :=
        congrArg₂ (fun user options => user ++
          [','].intercalate ((hostsOf sqlPort nodes).map (joined ':')) ++ '/' :: database ++
          options) userOnly sslmodePart
    _ = text (nodesAddress sqlPort nodes database) :=
        text_of_no_password (a := nodesAddress sqlPort nodes database) rfl

/-- What the connection string of the audit writer and the probe says. -/
def auditAddress (engine : String) (topology : Topology) (database : List Char)
    (pgPassword : String) : Except TopologyError Address :=
  if engine = "postgresql" then
    (ordered topology).map fun nodes => directAddress nodes database pgPassword
  else .ok (nodesAddress sqlPort topology.nodes database)

lemma auditDsn_eq (engine : String) (topology : Topology) (database : List Char)
    (pgPassword : String) :
    auditDsn sqlPort engine topology database pgPassword =
      (auditAddress sqlPort engine topology database pgPassword).map text := by
  unfold auditDsn auditAddress
  split
  · unfold pgDirectDsn
    cases hordered : ordered topology with
    | error e => rfl
    | ok nodes => exact congrArg Except.ok (directText nodes database pgPassword)
  · exact congrArg Except.ok (nodesText sqlPort topology.nodes database)

/-- The hosts of the nodes are plain and their ports in range, and no two nodes have one host. -/
structure PlainTopology (topology : Topology) : Prop where
  nodes : PlainNodes sqlPort topology.nodes
  distinct : (topology.nodes.map Node.host).Nodup
  someNode : topology.nodes ≠ []

/-- Through which node the generator is driven: not the one at fault, if there is another. -/
lemma workloadUri_spec {engine : String} {topology : Topology} {faultTarget : Node}
    {database : List Char} {pgPassword : String} {uri : List Char}
    (h : workloadUri sqlPort engine topology faultTarget database pgPassword = .ok uri) :
    (engine = "postgresql" ∧ uri = pgGeneratorDsn database pgPassword) ∨
    (engine ≠ "postgresql" ∧ ∃ n ∈ topology.nodes,
      uri = text (nodeAddress n.host.toList (sqlPort n) database) ∧
      ((∃ m ∈ topology.nodes, m.name ≠ faultTarget.name) → n.name ≠ faultTarget.name)) := by
  unfold workloadUri at h
  split at h
  · next hengine => exact Or.inl ⟨hengine, (Except.ok.inj h).symm⟩
  · next hengine =>
    refine Or.inr ⟨hengine, ?_⟩
    cases hfind : topology.nodes.find? fun n => n.name ≠ faultTarget.name with
    | some n =>
      rw [hfind] at h
      refine ⟨n, List.mem_of_find?_eq_some hfind, ?_, fun _ => ?_⟩
      · rw [← Except.ok.inj h]
        exact nodeUri_eq _ _ _
      · simpa using List.find?_some hfind
    | none =>
      rw [hfind] at h
      cases hgateway : gateway topology with
      | error e =>
        rw [hgateway] at h
        cases h
      | ok g =>
        rw [hgateway] at h
        refine ⟨g, gateway_mem hgateway, ?_, fun ⟨m, hm, hne⟩ => ?_⟩
        · rw [← Except.ok.inj h]
          exact nodeUri_eq _ _ _
        · have hnone := List.find?_eq_none.mp hfind m hm
          simp [hne] at hnone

lemma map_fst_hostsOf (port : Node → ℕ) (nodes : List Node) :
    (hostsOf port nodes).map Prod.fst = nodes.map fun n => n.host.toList := by
  rw [hostsOf, List.map_map]
  rfl

/-- The audit writer and the probe are given every node once, and on PostgreSQL the gateway
first. -/
lemma auditAddress_spec {engine : String} {topology : Topology} {database : List Char}
    {pgPassword : String} {address : Address} (htopology : PlainTopology sqlPort topology)
    (hdatabase : IsName database)
    (hpassword : engine = "postgresql" → IsPassword pgPassword.toUTF8.toList)
    (h : auditAddress sqlPort engine topology database pgPassword = .ok address) :
    WellFormed address ∧ (∀ e ∈ address.options, e ∈ directOptions) ∧
    (address.hosts.map Prod.fst).Perm (topology.nodes.map fun n => n.host.toList) ∧
    (engine = "postgresql" → address.password = some pgPassword.toUTF8.toList ∧
      ∃ g, gateway topology = .ok g ∧
        address.hosts.head? = some (g.host.toList, digits pgSqlPort)) := by
  unfold auditAddress at h
  split at h
  · next hengine =>
    cases hordered : ordered topology with
    | error e =>
      rw [hordered] at h
      cases h
    | ok nodes =>
      rw [hordered] at h
      obtain rfl := Except.ok.inj h
      obtain ⟨hperm, g, hgateway, hhead⟩ := ordered_spec hordered htopology.distinct
      have hne : nodes ≠ [] := by
        rintro rfl
        cases hhead
      refine ⟨wellFormed_directAddress (fun n hn => (htopology.nodes n (hperm.subset hn)).1) hne
        hdatabase (hpassword hengine), fun _ => id, ?_, fun _ => ⟨rfl, g, hgateway, ?_⟩⟩
      · change ((hostsOf (fun _ => pgSqlPort) nodes).map Prod.fst).Perm _
        rw [map_fst_hostsOf]
        exact hperm.map _
      · change (hostsOf (fun _ => pgSqlPort) nodes).head? = _
        rw [hostsOf, List.head?_map, hhead]
        rfl
  · next hengine =>
    obtain rfl := Except.ok.inj h
    refine ⟨wellFormed_nodesAddress htopology.nodes htopology.someNode hdatabase, ?_, ?_,
      fun h => absurd h hengine⟩
    · intro e he
      rw [List.mem_singleton.mp he]
      decide
    · rw [nodesAddress, map_fst_hostsOf]

end CrdbLab.ConnectionStrings
