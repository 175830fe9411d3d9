import CompleteDeviceManagement.Guarantees.PeerList

/-!
# What one write adds to wg0.conf

`write_server_peer` puts the device id into a comment and the key behind
`PublicKey = `, both as they came. The block is the one peer it is meant to be
exactly when the key is plain and no line of the device id after its first opens
a section or names an address.
-/

set_option autoImplicit false

namespace CompleteDeviceManagement.Guarantees.AppendedPeer
open CompleteDeviceManagement.Library CompleteDeviceManagement.Source.WireGuard
  CompleteDeviceManagement.Source.DeviceRuntime CompleteDeviceManagement.Source.WireGuardPeers
  CompleteDeviceManagement.Guarantees.AddressAllocation
  CompleteDeviceManagement.Guarantees.DeviceCalls CompleteDeviceManagement.Guarantees.PeerList

/-! ## What is promised, and when it holds -/

/-- Behind the sections of `before` comes one peer with this key and this address. -/
def AddsPeer (ip key before after : String) : Prop :=
  ∃ s : Ini.Section, Ini.parse after = Ini.parse before ++ [s] ∧ s.title = "peer" ∧
    peerOf s = ⟨some key, [ip ++ "/32"]⟩

/-- A line inside the block that leaves the peer as it is. -/
def harmless : Ini.Line → Bool
  | .blank => true
  | .header _ => false
  | .member name _ => name ≠ "allowedips"

/-- What the device id and the key have to be. -/
structure Insertable (d key : String) : Prop where
  key : Ini.Plain key.toList
  device : ∀ line ∈ Ini.laterLines d, harmless line = true

instance (d key : String) : Decidable (Insertable d key) :=
  decidable_of_iff (Ini.Plain key.toList ∧ ∀ line ∈ Ini.laterLines d, harmless line = true)
    ⟨fun h => ⟨h.1, h.2⟩, fun h => ⟨h.key, h.device⟩⟩

/-! ## The lines of the block -/

section Block

variable {d ip key : String}

theorem lines_device (d : String) :
    Ini.linesOf ("# device: " ++ d) = .blank :: Ini.laterLines d := by
  obtain ⟨first, hlines, _⟩ := Ini.linesOf_front (by decide : '\n' ∉ "# device: ".toList) d
  have hash : "# device: ".toList ++ first = '#' :: (" device: ".toList ++ first) := rfl
  rw [hlines, hash]
  unfold Ini.readLine
  rw [Ini.cleaned_comment]
  rfl

theorem lines_block (plain : Ini.Plain key.toList) (h : AddressText ip) :
    Ini.linesOf (blockLines d ip key) =
      .header "peer" :: .blank :: (Ini.laterLines d ++
        [.member "publickey" key, .member "allowedips" (ip ++ "/32"), .blank]) := by
  have wholeKey : '\n' ∉ key.toList := fun hmem => absurd (plain _ hmem).2 (by decide)
  have header : Ini.linesOf "[Peer]" = [.header "peer"] := by decide +kernel
  have publicKey : Ini.linesOf ("PublicKey = " ++ key) = [.member "publickey" key] := by
    rw [Ini.linesOf_line (by simpa using wholeKey), readLine_publicKey,
      (Ini.cleaned_eq_self_iff _).mpr plain, String.ofList_toList]
  have allowedIps : Ini.linesOf ("AllowedIPs = " ++ (ip ++ "/32")) =
      [.member "allowedips" (ip ++ "/32")] := by
    have whole : '\n' ∉ ("AllowedIPs = " ++ (ip ++ "/32")).toList := by
      simpa using h.not_mem (c := '\n') (by decide) (by decide) (by decide)
    rw [Ini.linesOf_line whole, readLine_allowedIps h]
  have last : Ini.linesOf "" = [.blank] := by decide +kernel
  unfold blockLines
  rw [Ini.linesOf_append, header, Ini.linesOf_append, lines_device, Ini.linesOf_append, publicKey,
    Ini.linesOf_append, allowedIps, last]
  rfl

/-- The block without its header. -/
def body (d ip key : String) : List Ini.Line :=
  .blank :: (Ini.laterLines d ++
    [.member "publickey" key, .member "allowedips" (ip ++ "/32"), .blank])

theorem parse_block (plain : Ini.Plain key.toList) (h : AddressText ip) :
    Ini.parse (blockLines d ip key) = (body d ip key).foldl Ini.addLine [⟨"peer", []⟩] := by
  unfold Ini.parse
  rw [lines_block plain h]
  rfl

theorem parse_appended (conf : String) (d ip key : String) :
    Ini.parse (conf ++ peerBlock d ip key) =
      Ini.parse conf ++ Ini.parse (blockLines d ip key) := by
  obtain ⟨lines, hlines⟩ :
      ∃ lines, Ini.linesOf (blockLines d ip key) = .header "peer" :: lines := by
    have header : Ini.linesOf "[Peer]" = [.header "peer"] := by decide +kernel
    unfold blockLines
    rw [Ini.linesOf_append, header]
    exact ⟨_, rfl⟩
  rw [append_peerBlock, Ini.parse_append conf hlines]

/-! ## The peer that is read -/

/-- Reading the values of one name is reading them in each part. -/
theorem values_append (title : String) (first second : List (String × String)) (name : String) :
    (⟨title, first ++ second⟩ : Ini.Section).values name =
      (⟨title, first⟩ : Ini.Section).values name ++
        (⟨title, second⟩ : Ini.Section).values name := by
  simp [Ini.Section.values]

theorem peerOf_block (h : AddressText ip) (members : List (String × String)) :
    peerOf ⟨"peer", members ++ [("publickey", key), ("allowedips", ip ++ "/32")]⟩ =
      ⟨some key, ((⟨"peer", members⟩ : Ini.Section).values "allowedips").flatMap
        (fun value => (value.toList.splitOn ',').map String.ofList) ++ [ip ++ "/32"]⟩ := by
  have publicKeys : (⟨"peer", [("publickey", key), ("allowedips", ip ++ "/32")]⟩ :
      Ini.Section).values "publickey" = [key] := by
    simp [Ini.Section.values]
  have routes : (⟨"peer", [("publickey", key), ("allowedips", ip ++ "/32")]⟩ :
      Ini.Section).values "allowedips" = [ip ++ "/32"] := by
    simp [Ini.Section.values]
  unfold peerOf
  rw [values_append, publicKeys, values_append, routes, List.flatMap_append,
    List.flatMap_singleton, splitOn_route h, List.getLast?_concat]
  simp

/-- Every value is at least one entry. -/
theorem entries_eq_nil {values : List String}
    (h : values.flatMap (fun value => (value.toList.splitOn ',').map String.ofList) = []) :
    values = [] := by
  cases values with
  | nil => rfl
  | cons value rest =>
    rw [List.flatMap_cons] at h
    have hentries := (List.append_eq_nil_iff.mp h).1
    exact absurd (List.map_eq_nil_iff.mp hentries) (List.splitOn_ne_nil _ _)

theorem harmless_of_filtered {lines : List Ini.Line}
    (headers : ∀ line ∈ lines, line.isHeader = false)
    (routes : (⟨"peer", lines.filterMap Ini.Line.member?⟩ : Ini.Section).values "allowedips" = []) :
    ∀ line ∈ lines, harmless line = true := by
  intro line hline
  cases line with
  | blank => rfl
  | header title => cases headers _ hline
  | member name value =>
    by_contra hname
    have heq : name = "allowedips" := by simpa [harmless] using hname
    have hmember : (name, value) ∈ lines.filterMap Ini.Line.member? :=
      List.mem_filterMap.mpr ⟨_, hline, rfl⟩
    have hvalue : value ∈ (⟨"peer", lines.filterMap Ini.Line.member?⟩ : Ini.Section).values
        "allowedips" :=
      List.mem_map.mpr ⟨(name, value), List.mem_filter.mpr ⟨hmember, by simpa using heq⟩, rfl⟩
    rw [routes] at hvalue
    cases hvalue

theorem filtered_of_harmless {lines : List Ini.Line}
    (h : ∀ line ∈ lines, harmless line = true) :
    (∀ line ∈ lines, line.isHeader = false) ∧
      (⟨"peer", lines.filterMap Ini.Line.member?⟩ : Ini.Section).values "allowedips" = [] := by
  constructor
  · intro line hline
    cases line with
    | blank => rfl
    | header title => cases h _ hline
    | member name value => rfl
  · unfold Ini.Section.values
    rw [List.map_eq_nil_iff, List.filter_eq_nil_iff]
    intro member hmember
    obtain ⟨line, hline, hread⟩ := List.mem_filterMap.mp hmember
    cases line with
    | blank => cases hread
    | header title => cases hread
    | member name value =>
      cases hread
      simpa [harmless] using h _ hline

/-- Without a header in the device id, the block is one section. -/
theorem parse_body (ip key : String) (headers : ∀ line ∈ Ini.laterLines d, line.isHeader = false) :
    (body d ip key).foldl Ini.addLine [⟨"peer", []⟩] =
      [⟨"peer", (Ini.laterLines d).filterMap Ini.Line.member? ++
        [("publickey", key), ("allowedips", ip ++ "/32")]⟩] := by
  have plain : ∀ line ∈ body d ip key, line.isHeader = false := by
    intro line hline
    rcases List.mem_cons.mp hline with rfl | hline
    · rfl
    · rcases List.mem_append.mp hline with hd | hown
      · exact headers line hd
      · simp only [List.mem_cons, List.not_mem_nil, or_false] at hown
        rcases hown with rfl | rfl | rfl <;> rfl
  have members : (body d ip key).filterMap Ini.Line.member? =
      (Ini.laterLines d).filterMap Ini.Line.member? ++
        [("publickey", key), ("allowedips", ip ++ "/32")] := by
    unfold body
    rw [List.filterMap_cons_none rfl, List.filterMap_append]
    rfl
  rw [Ini.foldl_addLine_members plain, members]
  rfl

end Block

/-! ## One write -/

theorem adds_of_insertable {d ip key : String} (conf : String) (h : AddressText ip)
    (insertable : Insertable d key) : AddsPeer ip key conf (conf ++ peerBlock d ip key) := by
  obtain ⟨headers, routes⟩ := filtered_of_harmless insertable.device
  have parsed := (parse_block insertable.key h).trans (parse_body ip key headers)
  refine ⟨_, (parse_appended conf d ip key).trans (congrArg (Ini.parse conf ++ ·) parsed), rfl, ?_⟩
  rw [peerOf_block h, routes]
  rfl

theorem insertable_of_adds {d ip key conf : String} (h : AddressText ip)
    (adds : AddsPeer ip key conf (conf ++ peerBlock d ip key)) : Insertable d key := by
  obtain ⟨s, hparse, _, hpeer⟩ := adds
  rw [parse_appended] at hparse
  have block : Ini.parse (blockLines d ip key) = [s] := List.append_cancel_left hparse
  have plain : Ini.Plain key.toList := by
    have hkey : (s.values "publickey").getLast? = some key := congrArg Peer.publicKey hpeer
    obtain ⟨member, hmember, hvalue⟩ := List.mem_map.mp (List.mem_of_getLast? hkey)
    have hmem := (List.mem_filter.mp hmember).1
    have hs : s ∈ Ini.parse (blockLines d ip key) := by
      rw [block]
      exact List.mem_singleton_self s
    rw [← hvalue]
    exact Ini.plain_of_mem_parse hs hmem
  rw [parse_block plain h] at block
  have headers : ∀ line ∈ Ini.laterLines d, line.isHeader = false := by
    have hlength := Ini.foldl_addLine_length (body d ip key) [⟨"peer", []⟩]
    rw [block] at hlength
    have hnone : (body d ip key).filter Ini.Line.isHeader = [] := by
      rw [← List.length_eq_zero_iff]
      simp only [List.length_singleton] at hlength
      omega
    intro line hline
    have hbody : line ∈ body d ip key :=
      List.mem_cons_of_mem _ (List.mem_append_left _ hline)
    simpa using List.filter_eq_nil_iff.mp hnone line hbody
  rw [parse_body ip key headers] at block
  have hs := List.singleton_injective block
  rw [← hs, peerOf_block h] at hpeer
  have hroutes := List.append_cancel_right
    ((congrArg Peer.allowedIps hpeer).trans (List.nil_append _).symm)
  exact ⟨plain, harmless_of_filtered headers (entries_eq_nil hroutes)⟩

theorem append_peerBlock_ne (conf d ip key : String) : conf ++ peerBlock d ip key ≠ conf := by
  intro same
  rw [append_peerBlock, String.append_assoc] at same
  have chars := congrArg String.toList same
  rw [String.toList_append, List.append_right_eq_self, String.toList_append] at chars
  have broken : "\n".toList = ['\n'] := rfl
  rw [broken] at chars
  cases chars

/-- An address that `allocate_ip` answers in a run from the start. -/
theorem addressText_of_returned {wg : WireGuardConfig} {calls : List String} {d ip : String}
    (returned : (allocateIp wg (run wg none calls) d).1 = .ok ip) : AddressText ip := by
  have recorded := allocateIp_recorded returned
  have after : (allocateIp wg (run wg none calls) d).2 = run wg none (calls ++ [d]) := by
    simp [run]
  rw [after] at recorded
  obtain ⟨a, ha, rfl⟩ := recorded_text recorded
  exact addressText_of_pool ha

/-- The default subnet of the settings. -/
def vpn : WireGuardConfig where
  subnet := .v4 (NetworkRange.containing 0x0A0D0D00#32 24 (by decide))
  serverIp := .v4 0x0A0D0D01#32

def serverConf : String := "[Interface]\nAddress = 10.13.13.1\n"

/-- A device id with line breaks, as a percent-decoded path segment can be. -/
def brokenId : String := "x\n[Peer]\nPublicKey=B=\nAllowedIPs=10.13.13.7\n[Peer]"

end CompleteDeviceManagement.Guarantees.AppendedPeer
