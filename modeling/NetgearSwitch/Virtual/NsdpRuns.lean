import NetgearSwitch.Virtual.NsdpFace

/-!
# Runs of the NSDP face

What handling one datagram may do to the switch, branch by branch, and from it what any run of
datagrams may do: who can change the configuration, how the lockout counts, and which faults
the handler can raise.  The attacker sends any bytes at all and the salts are arbitrary.
-/

namespace NetgearSwitch.Virtual

open Nsdp BigEndian

namespace VirtualSwitchState

/-! ## §1 One config TLV -/

/-- What is wrong with a config TLV, if anything: the value of each known tag must be long
enough, an address exactly long enough. -/
def configTlvFault (s : VirtualSwitchState) (t : TLVEntry) : Option NsdpFault :=
  let malformed (fault : NsdpFault) (ok : Prop) [Decidable ok] := if ok then none else some fault
  if t.tag = Tag.portPvid then malformed .uncaught (3 ≤ t.value.length)
  else if t.tag = Tag.vlanMembers then
    malformed .valueError (2 + bitmapBytes s.model.portCount * 2 ≤ t.value.length)
  else if t.tag = Tag.vlanDestroy then malformed .uncaught (2 ≤ t.value.length)
  else if t.tag = Tag.portName then malformed .uncaught (1 ≤ t.value.length)
  else if t.tag = Tag.ipAddress ∨ t.tag = Tag.netmask ∨ t.tag = Tag.gateway then
    malformed .uncaught (t.value.length = 4)
  else none

/-- A config TLV raises exactly what is wrong with it. -/
theorem applyNsdpWrite_error_iff {s : VirtualSwitchState} {t : TLVEntry} {fault : NsdpFault} :
    s.applyNsdpWrite t.tag t.value = .error fault ↔ s.configTlvFault t = some fault := by
  obtain ⟨tag, value⟩ := t
  unfold applyNsdpWrite configTlvFault
  dsimp only
  by_cases hpvid : tag = Tag.portPvid
  · rw [if_pos hpvid, if_pos hpvid]
    by_cases hlen : 3 ≤ value.length
    · simp [hlen, Nat.not_lt.mpr hlen]
    · simp [hlen, Nat.not_le.mp hlen]
  rw [if_neg hpvid, if_neg hpvid]
  by_cases hmembers : tag = Tag.vlanMembers
  · rw [if_pos hmembers, if_pos hmembers]
    by_cases hlen : 2 + bitmapBytes s.model.portCount * 2 ≤ value.length
    · simp [parseVlanMembers, hlen, Nat.not_lt.mpr hlen, bind, Except.bind]
    · simp [parseVlanMembers, hlen, Nat.not_le.mp hlen, bind, Except.bind]
  rw [if_neg hmembers, if_neg hmembers]
  by_cases hdestroy : tag = Tag.vlanDestroy
  · rw [if_pos hdestroy, if_pos hdestroy]
    by_cases hlen : 2 ≤ value.length
    · rw [if_neg (Nat.not_lt.mpr hlen), if_pos hlen]
      split_ifs <;> simp
    · simp [hlen, Nat.not_le.mp hlen]
  rw [if_neg hdestroy, if_neg hdestroy]
  by_cases hname : tag = Tag.portName
  · rw [if_pos hname, if_pos hname]
    cases value with
    | nil => simp
    | cons b rest => simp
  rw [if_neg hname, if_neg hname]
  have haddress : ∀ f : Text → VirtualSwitchState,
      ((do
        let address ← orFault .uncaught (PyCodec.inetNtoa value)
        .ok (f address)) = Except.error fault ↔
        (if value.length = 4 then none else some NsdpFault.uncaught) = some fault) := by
    intro f
    by_cases hlen : value.length = 4
    · simp [PyCodec.inetNtoa, hlen, bind, Except.bind]
    · simp [PyCodec.inetNtoa, hlen, bind, Except.bind]
  by_cases hip : tag = Tag.ipAddress
  · rw [if_pos hip, if_pos (Or.inl hip)]
    exact haddress _
  rw [if_neg hip]
  by_cases hmask : tag = Tag.netmask
  · rw [if_pos hmask, if_pos (Or.inr (Or.inl hmask))]
    exact haddress _
  rw [if_neg hmask]
  by_cases hgw : tag = Tag.gateway
  · rw [if_pos hgw, if_pos (Or.inr (Or.inr hgw))]
    exact haddress _
  have hnone : ¬ (tag = Tag.ipAddress ∨ tag = Tag.netmask ∨ tag = Tag.gateway) := by
    simp [hip, hmask, hgw]
  rw [if_neg hgw, if_neg hnone]
  split_ifs <;> simp

/-- A config TLV touches ports, VLANs, PVIDs and the management address, nothing else. -/
theorem applyNsdpWrite_frame {s s' : VirtualSwitchState} {tag : ℕ} {value : Bytes}
    (h : s.applyNsdpWrite tag value = .ok s') :
    ∃ ports vlans pvids mgmt,
      s' = { s with ports := ports, vlans := vlans, pvids := pvids, mgmt := mgmt } := by
  have hbind : ∀ {α : Type} {o : Option α} {fault : NsdpFault} {f : α → VirtualSwitchState},
      (do
        let a ← orFault fault o
        Except.ok (f a)) = Except.ok s' → ∃ a, s' = f a := by
    intro α o fault f ho
    cases o with
    | none => cases ho
    | some a =>
      cases ho
      exact ⟨a, rfl⟩
  unfold applyNsdpWrite at h
  dsimp only at h
  split_ifs at h
  · cases h
    exact ⟨_, _, _, _, rfl⟩
  · obtain ⟨m, rfl⟩ := hbind h
    exact ⟨_, _, _, _, rfl⟩
  · cases h
    exact ⟨_, _, _, _, rfl⟩
  · cases h
    exact ⟨_, _, _, _, rfl⟩
  · split at h
    · cases h
    · cases h
      exact ⟨_, _, _, _, rfl⟩
  · obtain ⟨a, rfl⟩ := hbind h
    exact ⟨_, _, _, _, rfl⟩
  · obtain ⟨a, rfl⟩ := hbind h
    exact ⟨_, _, _, _, rfl⟩
  · obtain ⟨a, rfl⟩ := hbind h
    exact ⟨_, _, _, _, rfl⟩
  · cases h
    exact ⟨_, _, _, _, rfl⟩
  · cases h
    exact ⟨_, _, _, _, rfl⟩
  · cases h
    exact ⟨_, _, _, _, rfl⟩

/-! ## §2 A list of config TLVs -/

/-- The config TLVs of a request, all but those of the auth tag, touch no more than one does. -/
theorem applyConfigTlvs_frame (authTag : ℕ) (ts : List TLVEntry) (s : VirtualSwitchState) :
    ∃ ports vlans pvids mgmt, (applyConfigTlvs authTag ts s).1 =
      { s with ports := ports, vlans := vlans, pvids := pvids, mgmt := mgmt } := by
  induction ts generalizing s with
  | nil => exact ⟨_, _, _, _, rfl⟩
  | cons t ts ih =>
    rw [applyConfigTlvs]
    split
    · exact ih s
    · split
      · exact ⟨_, _, _, _, rfl⟩
      · next s₁ hs₁ =>
        obtain ⟨ports, vlans, pvids, mgmt, rfl⟩ := applyNsdpWrite_frame hs₁
        obtain ⟨ports', vlans', pvids', mgmt', h⟩ := ih { s with
          ports := ports, vlans := vlans, pvids := pvids, mgmt := mgmt }
        exact ⟨ports', vlans', pvids', mgmt', h⟩

/-- The TLVs up to the first malformed one. -/
def wellFormedTlvs (s : VirtualSwitchState) (authTag : ℕ) (ts : List TLVEntry) : List TLVEntry :=
  ts.takeWhile fun t => t.tag == authTag || (s.configTlvFault t).isNone

/-- What is wrong with the first malformed TLV, those of the auth tag left out. -/
def firstTlvFault (s : VirtualSwitchState) (authTag : ℕ) (ts : List TLVEntry) : Option NsdpFault :=
  (ts.filter (·.tag != authTag)).findSome? s.configTlvFault

/-- A request's config TLVs raise what is wrong with the first malformed one, and the TLVs
before it have been applied by then. -/
theorem applyConfigTlvs_eq (authTag : ℕ) (ts : List TLVEntry) (s : VirtualSwitchState) :
    (applyConfigTlvs authTag ts s).1 = (applyConfigTlvs authTag (s.wellFormedTlvs authTag ts) s).1 ∧
      ∀ fault, (applyConfigTlvs authTag ts s).2 = .error fault ↔
        s.firstTlvFault authTag ts = some fault := by
  unfold wellFormedTlvs firstTlvFault
  induction ts generalizing s with
  | nil => simp [applyConfigTlvs]
  | cons t ts ih =>
    by_cases hauth : t.tag = authTag
    · obtain ⟨hstate, hfault⟩ := ih s
      simpa [applyConfigTlvs, hauth] using ⟨hstate, hfault⟩
    · cases hwrite : s.applyNsdpWrite t.tag t.value with
      | error e =>
        have hbad : s.configTlvFault t = some e := applyNsdpWrite_error_iff.mp hwrite
        simp [applyConfigTlvs, hauth, hwrite, hbad]
      | ok s₁ =>
        have hgood : s.configTlvFault t = none := by
          cases hbad : s.configTlvFault t with
          | none => rfl
          | some e =>
            rw [applyNsdpWrite_error_iff.mpr hbad] at hwrite
            cases hwrite
        obtain ⟨ports, vlans, pvids, mgmt, rfl⟩ := applyNsdpWrite_frame hwrite
        have hsame : VirtualSwitchState.configTlvFault { s with
            ports := ports, vlans := vlans, pvids := pvids, mgmt := mgmt } = s.configTlvFault := rfl
        obtain ⟨hstate, hfault⟩ := ih { s with
          ports := ports, vlans := vlans, pvids := pvids, mgmt := mgmt }
        rw [hsame] at hstate hfault
        simpa [applyConfigTlvs, hauth, hwrite, hgood] using ⟨hstate, hfault⟩

/-! ## §3 One datagram -/

/-- The tag that carries the proof of the password, which is not a config TLV. -/
def authTag (s : VirtualSwitchState) : ℕ :=
  if s.nsdpAuthVersion = encpassV2 then Tag.authV2Password else Tag.password

/-- A write request that proves the password: under v2 its first token TLV is the token for
the last salt issued, and the lockout is not engaged; under v1 some TLV is the encoded password. -/
def Authentic (s : VirtualSwitchState) (req : NSDPPacket) : Prop :=
  req.op = .writeRequest ∧
    if s.nsdpAuthVersion = encpassV2 then
      s.nsdpAuthFailures ≤ v2SilenceAt ∧ ∃ salt token, s.nsdpLastSalt = some salt ∧
        authV2Password s.nsdpPassword s.nsdpMac salt = .ok token ∧
        firstTlvValue req Tag.authV2Password = some token
    else ∃ expected, encodePasswordV1 s.nsdpPassword = some expected ∧
      ⟨Tag.password, expected⟩ ∈ req.tlvs

/-- What handling a datagram comes to, one constructor a branch. -/
inductive Handled (s : VirtualSwitchState) (salt data : Bytes) :
    VirtualSwitchState → Except NsdpFault (Option NSDPPacket) → Prop
  | undecodable {e : DecodeError} (hdata : NSDPPacket.decode data = .error e) :
      Handled s salt data s (.error .valueError)
  | ignored {req : NSDPPacket} (hdata : NSDPPacket.decode data = .ok req)
      (hread : req.op ≠ .readRequest) (hwrite : req.op ≠ .writeRequest) :
      Handled s salt data s (.ok none)
  | read {req : NSDPPacket} (hdata : NSDPPacket.decode data = .ok req)
      (hop : req.op = .readRequest) :
      Handled s salt data (s.readResponse salt req).1 ((s.readResponse salt req).2.map some)
  /-- No password or token to compare with can be computed. -/
  | unready {req : NSDPPacket} (hdata : NSDPPacket.decode data = .ok req)
      (hop : req.op = .writeRequest) (hauth : ¬ s.Authentic req)
      (hunlocked : s.nsdpAuthVersion = encpassV2 → s.nsdpAuthFailures ≤ v2SilenceAt) :
      Handled s salt data s (.error .valueError)
  | silent {req : NSDPPacket} (hdata : NSDPPacket.decode data = .ok req)
      (hop : req.op = .writeRequest) (hversion : s.nsdpAuthVersion = encpassV2)
      (hlocked : v2SilenceAt < s.nsdpAuthFailures) : Handled s salt data s (.ok none)
  | rejectedV1 {req resp : NSDPPacket} (hdata : NSDPPacket.decode data = .ok req)
      (hop : req.op = .writeRequest) (hversion : s.nsdpAuthVersion ≠ encpassV2)
      (hauth : ¬ s.Authentic req) (hresult : resp.result = resultBadPassword) :
      Handled s salt data s (.ok (some resp))
  | rejectedV2 {req : NSDPPacket} (hdata : NSDPPacket.decode data = .ok req)
      (hop : req.op = .writeRequest) (hversion : s.nsdpAuthVersion = encpassV2)
      (hunlocked : s.nsdpAuthFailures ≤ v2SilenceAt) (hauth : ¬ s.Authentic req) :
      Handled s salt data (s.rejectToken req).1 (.ok (some (s.rejectToken req).2))
  /-- An authenticated write stops at a TLV that raises. -/
  | brokenOff {req : NSDPPacket} {s' : VirtualSwitchState} {fault : NsdpFault}
      (hdata : NSDPPacket.decode data = .ok req) (hauth : s.Authentic req)
      (happly : applyConfigTlvs s.authTag req.tlvs s = (s', .error fault)) :
      Handled s salt data s' (.error fault)
  | accepted {req resp : NSDPPacket} {s' s'' : VirtualSwitchState}
      (hdata : NSDPPacket.decode data = .ok req) (hauth : s.Authentic req)
      (happly : applyConfigTlvs s.authTag req.tlvs s = (s', .ok ()))
      (hreset : s'' = if s.nsdpAuthVersion = encpassV2 then { s' with nsdpAuthFailures := 0 } else s')
      (hop : resp.op = .writeResponse) (hresult : resp.result = resultSuccess) :
      Handled s salt data s'' (.ok (some resp))

theorem handled_writeV1 {s : VirtualSwitchState} {salt data : Bytes} {req : NSDPPacket}
    (hdata : NSDPPacket.decode data = .ok req) (hop : req.op = .writeRequest)
    (hversion : s.nsdpAuthVersion ≠ encpassV2) :
    Handled s salt data (s.writeResponseV1 req).1 ((s.writeResponseV1 req).2.map some) := by
  have hauth : s.Authentic req ↔ ∃ expected, encodePasswordV1 s.nsdpPassword = some expected ∧
      ⟨Tag.password, expected⟩ ∈ req.tlvs := by
    rw [Authentic, if_neg hversion]
    exact and_iff_right hop
  unfold writeResponseV1
  cases hpassword : encodePasswordV1 s.nsdpPassword with
  | none =>
    exact .unready hdata hop (by simp [hauth, hpassword]) fun h => absurd h hversion
  | some expected =>
    have hmem : (req.tlvs.any fun t => decide (t.tag = Tag.password ∧ t.value = expected)) = true ↔
        s.Authentic req := by
      rw [hauth, hpassword, List.any_eq_true]
      constructor
      · rintro ⟨⟨tag, value⟩, ht, hp⟩
        obtain ⟨rfl, rfl⟩ : tag = Tag.password ∧ value = expected := by simpa using hp
        exact ⟨value, rfl, ht⟩
      · rintro ⟨other, heq, ht⟩
        cases heq
        exact ⟨_, ht, by simp⟩
    dsimp only
    by_cases hproved : s.Authentic req
    · rw [if_pos (hmem.mpr hproved)]
      have htag : s.authTag = Tag.password := if_neg hversion
      cases happly : applyConfigTlvs Tag.password req.tlvs s with
      | mk s' r =>
        cases r with
        | error fault => exact .brokenOff hdata hproved (htag ▸ happly)
        | ok _ => exact .accepted hdata hproved (htag ▸ happly) (if_neg hversion).symm rfl rfl
    · rw [if_neg (fun h => hproved (hmem.mp h))]
      exact .rejectedV1 hdata hop hversion hproved rfl

theorem handled_writeV2 {s : VirtualSwitchState} {salt data : Bytes} {req : NSDPPacket}
    (hdata : NSDPPacket.decode data = .ok req) (hop : req.op = .writeRequest)
    (hversion : s.nsdpAuthVersion = encpassV2) :
    Handled s salt data (s.writeResponseV2 req).1 (s.writeResponseV2 req).2 := by
  unfold writeResponseV2
  by_cases hlocked : v2SilenceAt < s.nsdpAuthFailures
  · rw [if_pos hlocked]
    exact .silent hdata hop hversion hlocked
  rw [if_neg hlocked]
  have hunlocked : s.nsdpAuthFailures ≤ v2SilenceAt := Int.not_lt.mp hlocked
  have hauth : s.Authentic req ↔ ∃ salt token, s.nsdpLastSalt = some salt ∧
      authV2Password s.nsdpPassword s.nsdpMac salt = .ok token ∧
      firstTlvValue req Tag.authV2Password = some token := by
    rw [Authentic, if_pos hversion]
    simp [hop, hunlocked]
  unfold expectedToken
  cases hsalt : s.nsdpLastSalt with
  | none =>
    have hnot : ¬ s.Authentic req := by simp [hauth, hsalt]
    simpa using .rejectedV2 hdata hop hversion hunlocked hnot
  | some last =>
    dsimp only
    cases htoken : authV2Password s.nsdpPassword s.nsdpMac last with
    | error e =>
      exact .unready hdata hop (by simp [hauth, hsalt, htoken]) fun _ => hunlocked
    | ok token =>
      dsimp only
      by_cases hproved : firstTlvValue req Tag.authV2Password = some token
      · have hauthentic : s.Authentic req := hauth.mpr ⟨last, token, hsalt, htoken, hproved⟩
        have htag : s.authTag = Tag.authV2Password := if_pos hversion
        rw [if_neg (by simp [hproved])]
        cases happly : applyConfigTlvs Tag.authV2Password req.tlvs s with
        | mk s' r =>
          cases r with
          | error fault => exact .brokenOff hdata hauthentic (htag ▸ happly)
          | ok _ =>
            exact .accepted hdata hauthentic (htag ▸ happly) (if_pos hversion).symm rfl rfl
      · have hnot : ¬ s.Authentic req := by simp [hauth, hsalt, htoken, hproved]
        rw [if_pos (Or.inr (Or.inr hproved))]
        exact .rejectedV2 hdata hop hversion hunlocked hnot

theorem handled (s : VirtualSwitchState) (salt data : Bytes) :
    Handled s salt data (s.handleNsdp salt data).1 (s.handleNsdp salt data).2 := by
  unfold handleNsdp
  cases hdata : NSDPPacket.decode data with
  | error e => exact .undecodable hdata
  | ok req =>
    dsimp only
    cases hop : req.op with
    | readRequest => exact .read hdata hop
    | writeRequest =>
      dsimp only
      by_cases hversion : s.nsdpAuthVersion = encpassV2
      · rw [if_pos hversion]
        exact handled_writeV2 hdata hop hversion
      · rw [if_neg hversion]
        exact handled_writeV1 hdata hop hversion
    | readResponse => exact .ignored hdata (by simp [hop]) (by simp [hop])
    | writeResponse => exact .ignored hdata (by simp [hop]) (by simp [hop])

/-! ### Reading -/

/-- The catalogued tags of a request. -/
def readTags (req : NSDPPacket) : List ℕ :=
  (req.tlvs.map TLVEntry.tag).filter (· ∈ Tag.catalogued)

/-- Does this read get far enough to draw a new salt? -/
def drawsSalt (s : VirtualSwitchState) (req : NSDPPacket) : Bool :=
  Tag.authV2Password ∉ readTags req ∧ Tag.authV2Salt ∈ readTags req ∧
    firstFailed (s.identityChecks (readTags req)) = none

theorem firstFailed_identityChecks {s : VirtualSwitchState} {tags : List ℕ}
    {identity : List TLVEntry} (h : s.identityTlvs tags = .ok identity) :
    firstFailed (s.identityChecks tags) = none := by
  cases hfirst : firstFailed (s.identityChecks tags) with
  | none => rfl
  | some fault =>
    rw [(s.checks_identityTlvs tags fault).mpr hfirst] at h
    cases h

theorem nsdpTlvs_state (s : VirtualSwitchState) (salt : Bytes) (tags : List ℕ) :
    (s.nsdpTlvs salt tags).1 =
      if Tag.authV2Salt ∈ tags ∧ firstFailed (s.identityChecks tags) = none then
        { s with nsdpLastSalt := some salt } else s := by
  unfold nsdpTlvs
  cases hid : s.identityTlvs tags with
  | error fault => simp [(s.checks_identityTlvs tags fault).mp hid]
  | ok identity =>
    by_cases hsalt : Tag.authV2Salt ∈ tags
    · simp [hsalt, firstFailed_identityChecks hid]
    · simp [hsalt]

/-- A read raises the fault of its first check that fails. -/
theorem nsdpTlvs_error_iff {s : VirtualSwitchState} {salt : Bytes} {tags : List ℕ}
    {fault : NsdpFault} : (s.nsdpTlvs salt tags).2 = .error fault ↔
      firstFailed (s.readChecks tags) = some fault := by
  rw [readChecks, firstFailed_append]
  unfold nsdpTlvs
  cases hid : s.identityTlvs tags with
  | error e =>
    rw [(s.checks_identityTlvs tags e).mp hid]
    simp
  | ok identity =>
    rw [firstFailed_identityChecks hid, Option.none_or]
    by_cases hsalt : Tag.authV2Salt ∈ tags
    · simp only [hsalt, if_true]
      exact (s.checks_configTlvs tags).map _ fault
    · simp only [hsalt, if_false]
      exact (s.checks_configTlvs tags).map _ fault

/-- The failure counter is no part of what a read answers. -/
theorem nsdpTlvs_failures (s : VirtualSwitchState) (failures : ℤ) (salt : Bytes) (tags : List ℕ) :
    (nsdpTlvs { s with nsdpAuthFailures := failures } salt tags).2 = (s.nsdpTlvs salt tags).2 := by
  have hid : identityTlvs { s with nsdpAuthFailures := failures } tags = s.identityTlvs tags := rfl
  unfold nsdpTlvs
  rw [hid]
  cases s.identityTlvs tags with
  | error e => rfl
  | ok identity =>
    dsimp only
    split
    · rfl
    · rfl

/-- A read changes the salt or nothing. -/
theorem readResponse_state (s : VirtualSwitchState) (salt : Bytes) (req : NSDPPacket) :
    (s.readResponse salt req).1 =
      if s.drawsSalt req then { s with nsdpLastSalt := some salt } else s := by
  have hstate := s.nsdpTlvs_state salt (readTags req)
  unfold readResponse drawsSalt
  rw [readTags] at hstate ⊢
  by_cases hauth : Tag.authV2Password ∈ (req.tlvs.map TLVEntry.tag).filter (· ∈ Tag.catalogued)
  · simp [hauth]
  · simp only [hauth, if_false, not_false_eq_true, true_and, decide_eq_true_eq]
    rw [← hstate]
    split
    · next h => rw [h]
    · next h =>
      rw [h]
      split
      · split_ifs <;> rfl
      · rfl

theorem readResponse_error_iff {s : VirtualSwitchState} {salt : Bytes} {req : NSDPPacket}
    {fault : NsdpFault} : (s.readResponse salt req).2 = .error fault ↔
      Tag.authV2Password ∉ readTags req ∧
        firstFailed (s.readChecks (readTags req)) = some fault := by
  have hfault := @nsdpTlvs_error_iff s salt (readTags req) fault
  unfold readResponse
  rw [readTags] at hfault ⊢
  by_cases hauth : Tag.authV2Password ∈ (req.tlvs.map TLVEntry.tag).filter (· ∈ Tag.catalogued)
  · simp [hauth]
  · simp only [hauth, if_false, not_false_eq_true, true_and]
    rw [← hfault]
    split
    · next h => simp [h]
    · next h =>
      rw [h]
      split
      · split_ifs <;> simp
      · simp

theorem readResponse_failures (s : VirtualSwitchState) (failures : ℤ) (salt : Bytes)
    (req : NSDPPacket) :
    (readResponse { s with nsdpAuthFailures := failures } salt req).2 =
      (s.readResponse salt req).2 := by
  have htlvs := s.nsdpTlvs_failures failures salt (readTags req)
  rw [readTags] at htlvs
  unfold readResponse
  dsimp only
  split
  · rfl
  · cases h : nsdpTlvs { s with nsdpAuthFailures := failures } salt
        ((req.tlvs.map TLVEntry.tag).filter (· ∈ Tag.catalogued)) with
    | mk s₁ r =>
      cases h' : nsdpTlvs s salt ((req.tlvs.map TLVEntry.tag).filter (· ∈ Tag.catalogued)) with
      | mk s₂ r' =>
        rw [h, h'] at htlvs
        dsimp only at htlvs
        subst htlvs
        cases r with
        | error e => rfl
        | ok tlvs =>
          dsimp only
          split
          · split <;> rfl
          · rfl

theorem op_readResponse {s : VirtualSwitchState} {salt : Bytes} {req resp : NSDPPacket}
    (h : (s.readResponse salt req).2 = .ok resp) : resp.op = .readResponse := by
  unfold readResponse at h
  dsimp only at h
  split_ifs at h with hauth
  · cases h
    rfl
  · split at h
    · cases h
    · split at h
      · split_ifs at h
        · cases h
          rfl
        · cases h
          rfl
      · cases h
        rfl

/-! ## §4 Who changes the configuration, and how the lockout counts -/

/-- The configuration: all but the two fields the authentication keeps for itself. -/
def config (s : VirtualSwitchState) : VirtualSwitchState :=
  { s with nsdpLastSalt := none, nsdpAuthFailures := 0 }

section

variable {s s' : VirtualSwitchState} {salt data : Bytes}
  {answer : Except NsdpFault (Option NSDPPacket)}

/-- Only an authenticated write changes the configuration. -/
theorem Handled.config (h : Handled s salt data s' answer) (hchange : s'.config ≠ s.config) :
    ∃ req, NSDPPacket.decode data = .ok req ∧ s.Authentic req := by
  cases h with
  | undecodable hdata => exact absurd rfl hchange
  | ignored hdata hread hwrite => exact absurd rfl hchange
  | read hdata hop =>
    rw [readResponse_state] at hchange
    split at hchange
    · exact absurd rfl hchange
    · exact absurd rfl hchange
  | unready hdata hop hauth hunlocked => exact absurd rfl hchange
  | silent hdata hop hversion hlocked => exact absurd rfl hchange
  | rejectedV1 hdata hop hversion hauth hresult => exact absurd rfl hchange
  | rejectedV2 hdata hop hversion hunlocked hauth => exact absurd rfl hchange
  | brokenOff hdata hauth happly => exact ⟨_, hdata, hauth⟩
  | accepted hdata hauth happly hreset hop hresult => exact ⟨_, hdata, hauth⟩

/-- The fields `applyConfigTlvs` leaves alone. -/
theorem auth_of_applyConfigTlvs {tag : ℕ} {ts : List TLVEntry} {r : Except NsdpFault Unit}
    (h : applyConfigTlvs tag ts s = (s', r)) :
    s'.nsdpAuthVersion = s.nsdpAuthVersion ∧ s'.nsdpLastSalt = s.nsdpLastSalt ∧
      s'.nsdpAuthFailures = s.nsdpAuthFailures := by
  obtain ⟨ports, vlans, pvids, mgmt, hframe⟩ := applyConfigTlvs_frame tag ts s
  rw [h] at hframe
  dsimp only at hframe
  rw [hframe]
  exact ⟨rfl, rfl, rfl⟩

/-- No datagram touches more than the tables, the management address and what the authentication
keeps for itself. -/
theorem Handled.frame (h : Handled s salt data s' answer) :
    ∃ ports vlans pvids mgmt last failures, s' =
      { s with
        ports := ports
        vlans := vlans
        pvids := pvids
        mgmt := mgmt
        nsdpLastSalt := last
        nsdpAuthFailures := failures } := by
  have happlied : ∀ {authTag : ℕ} {ts : List TLVEntry} {t : VirtualSwitchState}
      {r : Except NsdpFault Unit}, applyConfigTlvs authTag ts s = (t, r) →
      ∃ ports vlans pvids mgmt,
        t = { s with ports := ports, vlans := vlans, pvids := pvids, mgmt := mgmt } := by
    intro authTag ts t r happly
    have hframe := applyConfigTlvs_frame authTag ts s
    rwa [happly] at hframe
  cases h with
  | undecodable hdata => exact ⟨_, _, _, _, _, _, rfl⟩
  | ignored hdata hread hwrite => exact ⟨_, _, _, _, _, _, rfl⟩
  | read hdata hop =>
    rw [readResponse_state]
    split
    · exact ⟨_, _, _, _, _, _, rfl⟩
    · exact ⟨_, _, _, _, _, _, rfl⟩
  | unready hdata hop hauth hunlocked => exact ⟨_, _, _, _, _, _, rfl⟩
  | silent hdata hop hversion hlocked => exact ⟨_, _, _, _, _, _, rfl⟩
  | rejectedV1 hdata hop hversion hauth hresult => exact ⟨_, _, _, _, _, _, rfl⟩
  | rejectedV2 hdata hop hversion hunlocked hauth => exact ⟨_, _, _, _, _, _, rfl⟩
  | brokenOff hdata hauth happly =>
    obtain ⟨ports, vlans, pvids, mgmt, rfl⟩ := happlied happly
    exact ⟨_, _, _, _, _, _, rfl⟩
  | accepted hdata hauth happly hreset hop hresult =>
    obtain ⟨ports, vlans, pvids, mgmt, rfl⟩ := happlied happly
    rw [hreset]
    split
    · exact ⟨_, _, _, _, _, _, rfl⟩
    · exact ⟨_, _, _, _, _, _, rfl⟩

/-- The authentication scheme never changes. -/
theorem Handled.version (h : Handled s salt data s' answer) :
    s'.nsdpAuthVersion = s.nsdpAuthVersion := by
  obtain ⟨_, _, _, _, _, _, rfl⟩ := h.frame
  rfl

/-- The salt kept is always the last one issued: a read that draws one replaces it, and
nothing else touches it. -/
theorem Handled.lastSalt (h : Handled s salt data s' answer) :
    s'.nsdpLastSalt = s.nsdpLastSalt ∨
      ∃ req, NSDPPacket.decode data = .ok req ∧ req.op = .readRequest ∧
        Tag.authV2Salt ∈ readTags req ∧ s'.nsdpLastSalt = some salt := by
  cases h with
  | undecodable hdata => exact Or.inl rfl
  | ignored hdata hread hwrite => exact Or.inl rfl
  | @read req hdata hop =>
    rw [readResponse_state]
    split
    · next hdraws =>
      simp only [drawsSalt, decide_eq_true_eq] at hdraws
      exact Or.inr ⟨req, hdata, hop, hdraws.2.1, rfl⟩
    · exact Or.inl rfl
  | unready hdata hop hauth hunlocked => exact Or.inl rfl
  | silent hdata hop hversion hlocked => exact Or.inl rfl
  | rejectedV1 hdata hop hversion hauth hresult => exact Or.inl rfl
  | rejectedV2 hdata hop hversion hunlocked hauth => exact Or.inl rfl
  | brokenOff hdata hauth happly => exact Or.inl (auth_of_applyConfigTlvs happly).2.1
  | accepted hdata hauth happly hreset hop hresult =>
    refine Or.inl ?_
    rw [hreset, ← (auth_of_applyConfigTlvs happly).2.1]
    split <;> rfl

end

/-! ### The lockout -/

/-- A switch that can compute the token it expects: its password is ASCII, its MAC has six bytes, and
so many as four the salt it issued last. -/
structure TokenReady (s : VirtualSwitchState) : Prop where
  password : ∀ c ∈ s.nsdpPassword, c.toNat < 128
  mac : s.nsdpMac.length = 6
  salt : ∀ salt, s.nsdpLastSalt = some salt → salt.length = 4

theorem TokenReady.expectedToken {s : VirtualSwitchState} (h : s.TokenReady) (fault : NsdpFault) :
    s.expectedToken ≠ .error fault := by
  unfold VirtualSwitchState.expectedToken
  cases hsalt : s.nsdpLastSalt with
  | none => simp
  | some salt =>
    obtain ⟨token, htoken⟩ := exists_token h.password h.mac (h.salt salt hsalt)
    dsimp only
    rw [htoken]
    simp

/-- It stays so, as long as the salts drawn have four bytes. -/
theorem Handled.tokenReady {s s' : VirtualSwitchState} {salt data : Bytes}
    {answer : Except NsdpFault (Option NSDPPacket)} (h : Handled s salt data s' answer)
    (hready : s.TokenReady) (hsalt : salt.length = 4) : s'.TokenReady := by
  have hlast := h.lastSalt
  obtain ⟨_, _, _, _, last, _, rfl⟩ := h.frame
  refine ⟨hready.password, hready.mac, fun issued hissued => ?_⟩
  rcases hlast with hsame | ⟨_, _, _, _, hdrawn⟩
  · exact hready.salt issued (hsame ▸ hissued)
  · cases hdrawn.symm.trans hissued
    exact hsalt

/-- A write that proves nothing, met by a switch that is not locked and has a token to compare
with. -/
theorem writeResponseV2_refused {s : VirtualSwitchState} {req : NSDPPacket}
    (hop : req.op = .writeRequest) (hversion : s.nsdpAuthVersion = encpassV2)
    (hunlocked : s.nsdpAuthFailures ≤ v2SilenceAt) (hauth : ¬ s.Authentic req)
    (htoken : ∀ fault, s.expectedToken ≠ .error fault) :
    s.writeResponseV2 req = ((s.rejectToken req).1, .ok (some (s.rejectToken req).2)) := by
  unfold writeResponseV2
  rw [if_neg (not_lt.mpr hunlocked)]
  dsimp only
  cases hexpected : s.expectedToken with
  | error fault => exact absurd hexpected (htoken fault)
  | ok expected =>
    dsimp only
    refine if_pos ?_
    by_contra hproved
    push Not at hproved
    obtain ⟨-, hsome, heq⟩ := hproved
    rw [Authentic, if_pos hversion] at hauth
    unfold expectedToken at hexpected
    cases hsalt : s.nsdpLastSalt with
    | none =>
      rw [hsalt] at hexpected
      exact hsome (Except.ok.inj hexpected).symm
    | some last =>
      rw [hsalt] at hexpected
      dsimp only at hexpected
      cases hlast : authV2Password s.nsdpPassword s.nsdpMac last with
      | error e =>
        rw [hlast] at hexpected
        cases hexpected
      | ok token =>
        rw [hlast] at hexpected
        refine hauth ⟨hop, hunlocked, last, token, hsalt, hlast, ?_⟩
        rw [heq]
        exact (Except.ok.inj hexpected).symm

/-- How many writes in a row have been refused, counted from the answers: a refused write is
answered with an error, and an accepted one starts over. -/
def nextStreak (streak : ℕ) : Except NsdpFault (Option NSDPPacket) → ℕ
  | .ok (some resp) =>
    if resp.op = .writeResponse then (if resp.result = resultSuccess then 0 else streak + 1)
    else streak
  | _ => streak

/-- What the refusal number `n` in a row says. -/
def lockoutResult (n : ℕ) : ℕ := if n ≤ 3 then resultBadPasswordV2 else resultLockedV2

/-- What a write is answered after `streak` refusals in a row: nothing after six; until then, a
refusal that counts where it proves nothing, and no refusal where it does. -/
structure LockoutAnswer (s : VirtualSwitchState) (streak : ℕ) (req : NSDPPacket)
    (answer : Except NsdpFault (Option NSDPPacket)) : Prop where
  silent : streak = 6 → answer = .ok none
  /-- The token may be one that cannot be computed; the switch raises then, and counts nothing. -/
  refused : streak < 6 → ¬ s.Authentic req → (∀ fault, s.expectedToken ≠ .error fault) →
    ∃ resp, answer = .ok (some resp) ∧ resp.op = .writeResponse ∧
      resp.result = lockoutResult (streak + 1)
  raised : streak < 6 → ∀ fault, s.expectedToken = .error fault → answer = .error fault
  proved : ∀ resp, answer = .ok (some resp) → resp.result ≠ resultSuccess → ¬ s.Authentic req

/-- A refusal is an error answer. -/
theorem nextStreak_refused {streak n : ℕ} {resp : NSDPPacket} (hop : resp.op = .writeResponse)
    (hresult : resp.result = lockoutResult n) :
    nextStreak streak (.ok (some resp)) = streak + 1 := by
  have hrefused : resp.result ≠ resultSuccess := by
    rw [hresult, lockoutResult]
    split <;> decide
  simp only [nextStreak, hop, hrefused, if_true, if_false]

theorem rejectToken_result {s : VirtualSwitchState} {streak : ℕ} (hcount : s.nsdpAuthFailures = streak)
    (req : NSDPPacket) : (s.rejectToken req).2.result = lockoutResult (streak + 1) := by
  have hlt : (v2EscalateAt < s.nsdpAuthFailures + 1) ↔ ¬ streak + 1 ≤ 3 := by
    rw [hcount, v2EscalateAt]
    omega
  show (if v2EscalateAt < s.nsdpAuthFailures + 1 then resultLockedV2 else resultBadPasswordV2) = _
  rw [lockoutResult, if_congr hlt rfl rfl, ite_not]

/-- What the v2 handler answers a write, by the number of refusals before it. -/
theorem lockoutAnswer_writeResponseV2 {s : VirtualSwitchState} {streak : ℕ} {req : NSDPPacket}
    (hop : req.op = .writeRequest) (hversion : s.nsdpAuthVersion = encpassV2)
    (hcount : s.nsdpAuthFailures = streak) (hle : streak ≤ 6) :
    s.LockoutAnswer streak req (s.writeResponseV2 req).2 := by
  have hopen : streak < 6 → s.nsdpAuthFailures ≤ v2SilenceAt := by
    intro hlt
    rw [hcount, v2SilenceAt]
    omega
  refine ⟨fun hsix => ?_, fun hlt hauth htoken => ?_, fun hlt fault hfault => ?_,
    fun resp hresp hresult => ?_⟩
  · have hlocked : v2SilenceAt < s.nsdpAuthFailures := by
      rw [hcount, v2SilenceAt]
      omega
    rw [writeResponseV2, if_pos hlocked]
  · rw [writeResponseV2_refused hop hversion (hopen hlt) hauth htoken]
    exact ⟨_, rfl, rfl, rejectToken_result hcount req⟩
  · rw [writeResponseV2, if_neg (not_lt.mpr (hopen hlt))]
    dsimp only
    rw [hfault]
  · -- an error answer is a refusal, and whoever has the token is not refused
    intro hauth
    rw [Authentic, if_pos hversion] at hauth
    obtain ⟨-, hunlocked, last, token, hsalt, htoken, hfirst⟩ := hauth
    have hexpected : s.expectedToken = .ok (some token) := by
      rw [expectedToken, hsalt]
      dsimp only
      rw [htoken]
    rw [writeResponseV2, if_neg (not_lt.mpr hunlocked)] at hresp
    dsimp only at hresp
    rw [hexpected, hfirst] at hresp
    dsimp only at hresp
    rw [if_neg (by simp)] at hresp
    split at hresp
    · cases hresp
    · cases hresp
      exact hresult rfl

/-- Under v2 the counter counts the refusals in a row, and six of them stay. -/
theorem Handled.lockout {s s' : VirtualSwitchState} {salt data : Bytes}
    {answer : Except NsdpFault (Option NSDPPacket)} {streak : ℕ}
    (h : Handled s salt data s' answer) (hversion : s.nsdpAuthVersion = encpassV2)
    (hcount : s.nsdpAuthFailures = streak) (hle : streak ≤ 6) :
    s'.nsdpAuthFailures = nextStreak streak answer ∧ nextStreak streak answer ≤ 6 ∧
      (streak = 6 → nextStreak streak answer = 6) := by
  cases h with
  | undecodable hdata => exact ⟨hcount, hle, id⟩
  | ignored hdata hread hwrite => exact ⟨hcount, hle, id⟩
  | @read req hdata hop =>
    have hsame : nextStreak streak ((s.readResponse salt req).2.map some) = streak := by
      cases hresp : (s.readResponse salt req).2 with
      | error fault => rfl
      | ok resp => simp [Except.map, nextStreak, op_readResponse hresp]
    rw [hsame]
    refine ⟨?_, hle, id⟩
    rw [readResponse_state]
    split
    · exact hcount
    · exact hcount
  | unready hdata hop hauth hunlocked => exact ⟨hcount, hle, id⟩
  | silent hdata hop _ hlocked => exact ⟨hcount, hle, id⟩
  | rejectedV1 hdata hop hversion' hauth hresult => exact absurd hversion hversion'
  | @rejectedV2 req hdata hop _ hunlocked hauth =>
    rw [hcount, v2SilenceAt] at hunlocked
    rw [nextStreak_refused rfl (rejectToken_result hcount req)]
    refine ⟨?_, by omega, by omega⟩
    show s.nsdpAuthFailures + 1 = _
    rw [hcount]
    rfl
  | brokenOff hdata hauth happly =>
    rw [(auth_of_applyConfigTlvs happly).2.2]
    exact ⟨hcount, hle, id⟩
  | @accepted req resp s₁ s₂ hdata hauth happly hreset hop hresult =>
    rw [Authentic, if_pos hversion, hcount, v2SilenceAt] at hauth
    have hnext : nextStreak streak (.ok (some resp)) = 0 := by simp [nextStreak, hop, hresult]
    rw [hnext]
    refine ⟨?_, by omega, by omega⟩
    rw [hreset, if_pos hversion]
    rfl

/-! ### Runs -/

/-- The state after a run of datagrams, each with the salt the system would draw for it. -/
def nsdpRun (s : VirtualSwitchState) (events : List (Bytes × Bytes)) : VirtualSwitchState :=
  events.foldl (fun s e => (s.handleNsdp e.1 e.2).1) s

/-- What the datagrams of a run are answered, in order. -/
def nsdpAnswers (s : VirtualSwitchState) :
    List (Bytes × Bytes) → List (Except NsdpFault (Option NSDPPacket))
  | [] => []
  | (salt, data) :: events =>
    (s.handleNsdp salt data).2 :: nsdpAnswers (s.handleNsdp salt data).1 events

/-- The writes refused in a row at the end of a run. -/
def nsdpStreak (s : VirtualSwitchState) (events : List (Bytes × Bytes)) : ℕ :=
  (s.nsdpAnswers events).foldl nextStreak 0

theorem nsdpRun_version (s : VirtualSwitchState) (events : List (Bytes × Bytes)) :
    (s.nsdpRun events).nsdpAuthVersion = s.nsdpAuthVersion := by
  unfold nsdpRun
  induction events generalizing s with
  | nil => rfl
  | cons e events ih => exact (ih _).trans (s.handled e.1 e.2).version

theorem nsdpRun_tokenReady {s : VirtualSwitchState} (h : s.TokenReady)
    {events : List (Bytes × Bytes)} (hsalts : ∀ e ∈ events, e.1.length = 4) :
    (s.nsdpRun events).TokenReady := by
  unfold nsdpRun
  induction events generalizing s with
  | nil => exact h
  | cons e events ih =>
    exact ih ((s.handled e.1 e.2).tokenReady h (hsalts e List.mem_cons_self))
      fun e' he' => hsalts e' (List.mem_cons_of_mem e he')

/-- Over a run that starts unlocked the counter counts the refusals in a row. -/
theorem nsdpRun_count {s : VirtualSwitchState} {streak : ℕ} (events : List (Bytes × Bytes))
    (hversion : s.nsdpAuthVersion = encpassV2) (hcount : s.nsdpAuthFailures = streak)
    (hle : streak ≤ 6) :
    (s.nsdpRun events).nsdpAuthFailures = (s.nsdpAnswers events).foldl nextStreak streak ∧
      (s.nsdpAnswers events).foldl nextStreak streak ≤ 6 := by
  unfold nsdpRun
  induction events generalizing s streak with
  | nil => exact ⟨hcount, hle⟩
  | cons e events ih =>
    obtain ⟨salt, data⟩ := e
    have hstep := s.handled salt data
    obtain ⟨hcount', hle', -⟩ := hstep.lockout hversion hcount hle
    exact ih (hstep.version.trans hversion) hcount' hle'

/-- **Authentication over whole runs.**  Whatever datagrams came before, only a write that
proves the password changes the configuration, and the salt to prove it with is the last one
issued.  Under v2, from an unlocked start, every write that proves nothing is refused and counted:
the first three in a row answer error 13, the next three error 14, and then every write goes
unanswered; a read does not notice. -/
theorem nsdpRun_guarded (s₀ : VirtualSwitchState) (before : List (Bytes × Bytes))
    (salt data : Bytes) :
    let s := s₀.nsdpRun before
    let s' := (s.handleNsdp salt data).1
    let answer := (s.handleNsdp salt data).2
    (s'.config ≠ s.config → ∃ req, NSDPPacket.decode data = .ok req ∧ s.Authentic req) ∧
      (s'.nsdpLastSalt = s.nsdpLastSalt ∨
        ∃ req, NSDPPacket.decode data = .ok req ∧ req.op = .readRequest ∧
          Tag.authV2Salt ∈ readTags req ∧ s'.nsdpLastSalt = some salt) ∧
      (s₀.nsdpAuthVersion = encpassV2 → s₀.nsdpAuthFailures = 0 →
        s.nsdpAuthFailures = s₀.nsdpStreak before ∧ s₀.nsdpStreak before ≤ 6 ∧
          s'.nsdpAuthFailures = nextStreak (s₀.nsdpStreak before) answer ∧
          (s₀.nsdpStreak before = 6 → nextStreak (s₀.nsdpStreak before) answer = 6) ∧
          ∀ req, NSDPPacket.decode data = .ok req → req.op = .writeRequest →
            s.LockoutAnswer (s₀.nsdpStreak before) req answer) ∧
      (s₀.TokenReady → (∀ e ∈ before, e.1.length = 4) → ∀ fault, s.expectedToken ≠ .error fault) ∧
      ∀ req failures, NSDPPacket.decode data = .ok req → req.op = .readRequest →
        (handleNsdp { s with nsdpAuthFailures := failures } salt data).2 = answer := by
  have hstep := (s₀.nsdpRun before).handled salt data
  refine ⟨hstep.config, hstep.lastSalt, fun hversion hzero => ?_,
    fun hready hsalts => (nsdpRun_tokenReady hready hsalts).expectedToken,
    fun req failures hdata hop => ?_⟩
  · have hversion' := (nsdpRun_version s₀ before).trans hversion
    obtain ⟨hcount, hle⟩ := @nsdpRun_count s₀ 0 before hversion hzero (by omega)
    obtain ⟨hnext, -, hstay⟩ := hstep.lockout hversion' hcount hle
    refine ⟨hcount, hle, hnext, hstay, fun req hdata hop => ?_⟩
    have hanswer : (s₀.nsdpRun before).handleNsdp salt data =
        (s₀.nsdpRun before).writeResponseV2 req := by
      unfold handleNsdp
      rw [hdata]
      dsimp only
      rw [hop]
      exact if_pos hversion'
    rw [hanswer]
    exact lockoutAnswer_writeResponseV2 hop hversion' hcount hle
  · have hread := readResponse_failures (s₀.nsdpRun before) failures salt req
    unfold handleNsdp
    rw [hdata]
    simp only [hop, hread]

/-- A GS110EMX as it leaves the factory, under v2. -/
def freshV2Switch : VirtualSwitchState := { modelKey := .gs110emx, nsdpAuthVersion := encpassV2 }

/-- A write that leads with the password and no token. -/
def tokenlessWrite : NSDPPacket where
  op := .writeRequest
  clientMac := [0, 0, 0, 0, 0, 1]
  tlvs := [⟨Tag.password, [1, 2]⟩, ⟨Tag.portPvid, [1, 0, 5]⟩]

/-- Such a write, sent `n` times. -/
def tokenlessWrites (n : ℕ) : List (Bytes × Bytes) :=
  List.replicate n ([1, 2, 3, 4], tokenlessWrite.encode.getD [])

theorem decode_tokenlessWrite :
    NSDPPacket.decode (tokenlessWrite.encode.getD []) = .ok tokenlessWrite := by decide +kernel

theorem nsdpStreak_tokenlessWrites :
    ∀ n ∈ [0, 2, 3, 5, 7], freshV2Switch.nsdpStreak (tokenlessWrites n) = min n 6 := by
  decide +kernel

/-- The first and the third are refused with 13, the fourth and the sixth with 14, and the eighth is
not answered. -/
theorem nsdpRun_guarded_tokenlessWrites :
    (∀ n ∈ [0, 2, 3, 5], ∃ resp, ((freshV2Switch.nsdpRun (tokenlessWrites n)).handleNsdp [1, 2, 3, 4]
        (tokenlessWrite.encode.getD [])).2 = .ok (some resp) ∧ resp.op = .writeResponse ∧
          resp.result = lockoutResult (n + 1)) ∧
      ((freshV2Switch.nsdpRun (tokenlessWrites 7)).handleNsdp [1, 2, 3, 4]
        (tokenlessWrite.encode.getD [])).2 = .ok none := by
  have hready : freshV2Switch.TokenReady := ⟨by decide, rfl, fun salt hsalt => by cases hsalt⟩
  have hsalts : ∀ n, ∀ e ∈ tokenlessWrites n, e.1.length = 4 := by
    intro n e he
    rw [List.eq_of_mem_replicate he]
    rfl
  have hnothing : ∀ s : VirtualSwitchState, s.nsdpAuthVersion = encpassV2 →
      ¬ s.Authentic tokenlessWrite := by
    intro s hversion hauth
    rw [Authentic, if_pos hversion] at hauth
    obtain ⟨-, -, _, token, -, -, hfirst⟩ := hauth
    cases hfirst
  constructor
  · intro n hn
    have hstreak := nsdpStreak_tokenlessWrites n
      ((by decide : [0, 2, 3, 5] ⊆ [0, 2, 3, 5, 7]) hn)
    have hsix : n < 6 := (by decide : ∀ n ∈ [0, 2, 3, 5], n < 6) n hn
    rw [Nat.min_eq_left hsix.le] at hstreak
    obtain ⟨-, -, hlockout, htoken, -⟩ := nsdpRun_guarded freshV2Switch (tokenlessWrites n)
      [1, 2, 3, 4] (tokenlessWrite.encode.getD [])
    have hanswer := (hlockout rfl rfl).2.2.2.2 tokenlessWrite decode_tokenlessWrite rfl
    rw [hstreak] at hanswer
    exact hanswer.refused hsix (hnothing _ (nsdpRun_version freshV2Switch _))
      (htoken hready (hsalts n))
  · have hstreak := nsdpStreak_tokenlessWrites 7 (by decide)
    have hanswer := ((nsdpRun_guarded freshV2Switch (tokenlessWrites 7) [1, 2, 3, 4]
      (tokenlessWrite.encode.getD [])).2.2.1 rfl rfl).2.2.2.2 tokenlessWrite decode_tokenlessWrite rfl
    rw [hstreak] at hanswer
    exact hanswer.silent rfl

/-! ## §5 What a datagram may raise -/

/-- The serve loop survives the datagram, and an error leaves the configuration alone. -/
def Survives (s : VirtualSwitchState) (salt data : Bytes) : Prop :=
  (s.handleNsdp salt data).2 ≠ .error .uncaught ∧
    ∀ fault, (s.handleNsdp salt data).2 = .error fault →
      (s.handleNsdp salt data).1.config = s.config

/-- The datagrams the handler is safe against: a read whose first check to fail, if any, is
one of the `ValueError`s; an authenticated write whose first malformed config TLV, if any, is
one that raises a `ValueError` behind TLVs that change nothing; and every other datagram. -/
def SafeDatagram (s : VirtualSwitchState) (data : Bytes) : Prop :=
  ∀ req, NSDPPacket.decode data = .ok req →
    (req.op = .readRequest → Tag.authV2Password ∉ readTags req →
      firstFailed (s.readChecks (readTags req)) ≠ some .uncaught) ∧
    (s.Authentic req → ∀ fault, s.firstTlvFault s.authTag req.tlvs = some fault →
      fault = .valueError ∧
        (applyConfigTlvs s.authTag (s.wellFormedTlvs s.authTag req.tlvs) s).1 = s)

/-- Config TLVs that leave the configuration as it was leave everything as it was. -/
theorem config_applyConfigTlvs {tag : ℕ} {ts : List TLVEntry} {s : VirtualSwitchState} :
    (applyConfigTlvs tag ts s).1.config = s.config ↔ (applyConfigTlvs tag ts s).1 = s := by
  obtain ⟨ports, vlans, pvids, mgmt, hframe⟩ := applyConfigTlvs_frame tag ts s
  rw [hframe]
  constructor
  · intro h
    obtain rfl : ports = s.ports := congrArg VirtualSwitchState.ports h
    obtain rfl : vlans = s.vlans := congrArg VirtualSwitchState.vlans h
    obtain rfl : pvids = s.pvids := congrArg VirtualSwitchState.pvids h
    obtain rfl : mgmt = s.mgmt := congrArg VirtualSwitchState.mgmt h
    rfl
  · intro h
    rw [h]

/-- Only reads and authenticated writes can be unsafe. -/
theorem safeDatagram_of_decode {s : VirtualSwitchState} {data : Bytes} {req : NSDPPacket}
    (hdata : NSDPPacket.decode data = .ok req) :
    s.SafeDatagram data ↔
      (req.op = .readRequest → Tag.authV2Password ∉ readTags req →
        firstFailed (s.readChecks (readTags req)) ≠ some .uncaught) ∧
      (s.Authentic req → ∀ fault, s.firstTlvFault s.authTag req.tlvs = some fault →
        fault = .valueError ∧
          (applyConfigTlvs s.authTag (s.wellFormedTlvs s.authTag req.tlvs) s).1 = s) := by
  constructor
  · intro h
    exact h req hdata
  · intro h req' hreq
    rw [hdata] at hreq
    cases hreq
    exact h

/-- **Robustness of the handler.**  It returns or raises `ValueError`, with the configuration
untouched whenever it raises, on exactly the safe datagrams. -/
theorem survives_iff (s : VirtualSwitchState) (salt data : Bytes) :
    s.Survives salt data ↔ s.SafeDatagram data := by
  have hhandled := s.handled salt data
  unfold Survives
  generalize (s.handleNsdp salt data).1 = s', (s.handleNsdp salt data).2 = answer at hhandled
  cases hhandled with
  | undecodable hdata =>
    refine iff_of_true ⟨by simp, fun _ _ => rfl⟩ fun req hreq => ?_
    rw [hdata] at hreq
    cases hreq
  | ignored hdata hread hwrite =>
    rw [safeDatagram_of_decode hdata]
    exact iff_of_true ⟨by simp, fun _ _ => rfl⟩
      ⟨fun h => absurd h hread, fun h => absurd h.1 hwrite⟩
  | @read req hdata hop =>
    rw [safeDatagram_of_decode hdata]
    have hconfig : (s.readResponse salt req).1.config = s.config := by
      rw [readResponse_state]
      split <;> rfl
    have hnotAuthentic : ¬ s.Authentic req := fun h => by
      rw [h.1] at hop
      cases hop
    have hfault : ((s.readResponse salt req).2.map some ≠ .error .uncaught) ↔
        (s.readResponse salt req).2 ≠ .error .uncaught := by
      cases (s.readResponse salt req).2 <;> simp [Except.map]
    rw [hfault, ne_eq, readResponse_error_iff]
    constructor
    · rintro ⟨hraise, -⟩
      exact ⟨fun _ htag hfirst => hraise ⟨htag, hfirst⟩, fun h => absurd h hnotAuthentic⟩
    · rintro ⟨hsafe, -⟩
      exact ⟨fun h => hsafe hop h.1 h.2, fun _ _ => hconfig⟩
  | @unready req hdata hop hauth hunlocked =>
    rw [safeDatagram_of_decode hdata]
    have hnotRead : ¬ req.op = .readRequest := fun h => by
      rw [hop] at h
      cases h
    exact iff_of_true ⟨by simp, fun _ _ => rfl⟩
      ⟨fun h => absurd h hnotRead, fun h => absurd h hauth⟩
  | @silent req hdata hop hversion hlocked =>
    rw [safeDatagram_of_decode hdata]
    have hnotRead : ¬ req.op = .readRequest := fun h => by
      rw [hop] at h
      cases h
    refine iff_of_true ⟨by simp, fun _ _ => rfl⟩ ⟨fun h => absurd h hnotRead, fun h => ?_⟩
    rw [Authentic, if_pos hversion] at h
    exact absurd h.2.1 (Int.not_le.mpr hlocked)
  | @rejectedV1 req resp hdata hop hversion hauth hresult =>
    rw [safeDatagram_of_decode hdata]
    have hnotRead : ¬ req.op = .readRequest := fun h => by
      rw [hop] at h
      cases h
    exact iff_of_true ⟨by simp, fun _ h => by cases h⟩
      ⟨fun h => absurd h hnotRead, fun h => absurd h hauth⟩
  | @rejectedV2 req hdata hop hversion hunlocked hauth =>
    rw [safeDatagram_of_decode hdata]
    have hnotRead : ¬ req.op = .readRequest := fun h => by
      rw [hop] at h
      cases h
    exact iff_of_true ⟨by simp, fun _ h => by cases h⟩
      ⟨fun h => absurd h hnotRead, fun h => absurd h hauth⟩
  | @brokenOff req s' fault hdata hauth happly =>
    rw [safeDatagram_of_decode hdata]
    obtain ⟨hstate, hfault⟩ := applyConfigTlvs_eq s.authTag req.tlvs s
    rw [happly] at hstate hfault
    have hfirst : s.firstTlvFault s.authTag req.tlvs = some fault := (hfault fault).mp rfl
    have hconfig := @config_applyConfigTlvs s.authTag (s.wellFormedTlvs s.authTag req.tlvs) s
    rw [← hstate] at hconfig
    have hnotRead : ¬ req.op = .readRequest := fun h => by
      rw [hauth.1] at h
      cases h
    rw [hfirst, ← hstate]
    constructor
    · rintro ⟨hcaught, hsame⟩
      refine ⟨fun h => absurd h hnotRead, fun _ fault' hfault' => ?_⟩
      cases hfault'
      refine ⟨?_, hconfig.mp (hsame fault rfl)⟩
      cases fault with
      | valueError => rfl
      | uncaught => exact absurd rfl hcaught
    · rintro ⟨-, hsafe⟩
      obtain ⟨rfl, hsame⟩ := hsafe hauth fault rfl
      exact ⟨by simp, fun _ _ => hconfig.mpr hsame⟩
  | @accepted req resp s₁ s₂ hdata hauth happly hreset hop hresult =>
    rw [safeDatagram_of_decode hdata]
    obtain ⟨-, hfault⟩ := applyConfigTlvs_eq s.authTag req.tlvs s
    rw [happly] at hfault
    refine iff_of_true ⟨by simp, fun _ h => by cases h⟩ ⟨fun h => ?_, fun _ fault hbad => ?_⟩
    · rw [hauth.1] at h
      cases h
    · cases (hfault fault).mpr hbad

/-- An authenticated v1 write whose second PVID TLV is cut short. -/
def truncatedWrite : NSDPPacket where
  op := .writeRequest
  clientMac := [0, 0, 0, 0, 0, 1]
  tlvs := [⟨Tag.password, (encodePasswordV1 "password".toList).getD []⟩,
    ⟨Tag.portPvid, [1, 0, 5]⟩, ⟨Tag.portPvid, [2]⟩]

/-- A GS305EP as it leaves the factory, under v1. -/
def freshV1Switch : VirtualSwitchState := { modelKey := .gs305ep }

/-- The first PVID is changed, and the `struct.error` of the second ends the serving thread. -/
theorem truncatedWrite_kills :
    ∃ data, truncatedWrite.encode = some data ∧
      (freshV1Switch.handleNsdp [] data).2 = .error .uncaught ∧
      (freshV1Switch.handleNsdp [] data).1.pvids.get? 1 = some 5 ∧
      freshV1Switch.pvids.get? 1 = none ∧ ¬ freshV1Switch.Survives [] data := by
  have hraise : (freshV1Switch.handleNsdp [] (truncatedWrite.encode.getD [])).2 =
      .error .uncaught := by decide +kernel
  exact ⟨truncatedWrite.encode.getD [], by decide +kernel, hraise, by decide +kernel, rfl,
    fun h => h.1 hraise⟩

end VirtualSwitchState

end NetgearSwitch.Virtual
