import CompleteDeviceManagement.Guarantees.Bootstrap
import CompleteDeviceManagement.Library.Ini
import CompleteDeviceManagement.Source.WireGuardPeers

/-!
# What the config of a device says

`generate_client_config` leaves a place for the private key, and enroll.sh fills
it. Read as WireGuard reads it, the result has the two sections that the server
meant, with the device's own key in the first (`parse_config`).
-/

set_option autoImplicit false

namespace CompleteDeviceManagement.Guarantees.DeviceConfig
open CompleteDeviceManagement.Library CompleteDeviceManagement.Source.Bootstrap
  CompleteDeviceManagement.Source.WireGuard CompleteDeviceManagement.Source.WireGuardPeers
  CompleteDeviceManagement.Source.DeviceRuntime CompleteDeviceManagement.Guarantees.Bootstrap

/-- A text that stays in its line and holds no place for a key. -/
def InLine (text : String) : Prop := '\n' ∉ text.toList ∧ '<' ∉ text.toList

def endpoint (settings : DeviceSettings) : String :=
  settings.wgServerUrl ++ ":" ++ toString settings.wgPort

/-- What stands in front of the private key. -/
def headText (deviceId ip : String) : String :=
  "[Interface]" ++ "\n" ++ ("# Device: " ++ deviceId ++ "\n" ++ ("Address = " ++ (ip ++ "/24") ++
    "\n" ++ "PrivateKey = "))

/-- The lines behind the private key, the last of them jq's. -/
def restLines (env : DeviceEnv) (serverKey : String) : String :=
  "DNS = " ++ env.wg.serverIp.text ++ "\n" ++ ("" ++ "\n" ++ ("[Peer]" ++ "\n" ++
    ("PublicKey = " ++ serverKey ++ "\n" ++ ("Endpoint = " ++ endpoint env.settings ++ "\n" ++
    ("AllowedIPs = " ++ networkText env.wg.subnet ++ "\n" ++ ("PersistentKeepalive = " ++ "25" ++
    "\n" ++ ("" ++ "\n" ++ "")))))))

def configLines (env : DeviceEnv) (deviceId ip serverKey key : String) : String :=
  "[Interface]" ++ "\n" ++ ("# Device: " ++ deviceId ++ "\n" ++ ("Address = " ++ (ip ++ "/24") ++
    "\n" ++ ("PrivateKey = " ++ key ++ "\n" ++ restLines env serverKey)))

theorem configLines_key (env : DeviceEnv) (deviceId ip serverKey key : String) :
    configLines env deviceId ip serverKey key =
      headText deviceId ip ++ (key ++ ("\n" ++ restLines env serverKey)) := by
  simp only [configLines, headText, String.append_assoc]

theorem clientConfig_lines (env : DeviceEnv) (deviceId ip serverKey : String) :
    clientConfig env deviceId ip serverKey ++ "\n" =
      configLines env deviceId ip serverKey "<REPLACE_WITH_DEVICE_PRIVATE_KEY>" := by
  have device : "[Interface]\n# Device: " = "[Interface]" ++ "\n" ++ "# Device: " := by decide
  have address : "\nAddress = " = "\n" ++ "Address = " := by decide
  have key : "/24\nPrivateKey = <REPLACE_WITH_DEVICE_PRIVATE_KEY>\nDNS = " =
      "/24" ++ "\n" ++ "PrivateKey = " ++ "<REPLACE_WITH_DEVICE_PRIVATE_KEY>" ++ "\n" ++
        "DNS = " := by
    decide +kernel
  have peer : "\n\n[Peer]\nPublicKey = " =
      "\n" ++ "" ++ "\n" ++ "[Peer]" ++ "\n" ++ "PublicKey = " := by
    decide
  have server : "\nEndpoint = " = "\n" ++ "Endpoint = " := by decide
  have allowed : "\nAllowedIPs = " = "\n" ++ "AllowedIPs = " := by decide
  have last : "\nPersistentKeepalive = 25\n" =
      "\n" ++ "PersistentKeepalive = " ++ "25" ++ "\n" ++ "" := by decide
  unfold clientConfig configLines restLines endpoint
  rw [device, address, key, peer, server, allowed, last]
  simp only [String.append_assoc, String.append_empty, String.empty_append]

/-! ## Filling in the key -/

theorem inLine_nat (n : Nat) : InLine (toString n) := by
  have digits : (toString n).toList = Nat.toDigits 10 n := by
    rw [Nat.toString_eq_repr, Nat.repr, String.toList_ofList]
  have every := JsonText.isDigit_toDigits n
  constructor
  · rw [digits]
    intro inside
    exact absurd (every _ inside) (by decide)
  · rw [digits]
    intro inside
    exact absurd (every _ inside) (by decide)

theorem InLine.append {a b : String} (ha : InLine a) (hb : InLine b) : InLine (a ++ b) := by
  constructor
  · rw [String.toList_append, List.mem_append]
    exact not_or.mpr ⟨ha.1, hb.1⟩
  · rw [String.toList_append, List.mem_append]
    exact not_or.mpr ⟨ha.2, hb.2⟩

theorem inLine_address {a : IpAddress} (scopeless : a.scopeId = none) : InLine a.text :=
  ⟨IpAddress.not_mem_text scopeless (by decide) (by decide) (by decide),
    IpAddress.not_mem_text scopeless (by decide) (by decide) (by decide)⟩

theorem inLine_network (network : IpNetwork) : InLine (networkText network) := by
  have slash : InLine "/" := by
    unfold InLine
    decide
  cases network with
  | v4 range => exact ((inLine_address rfl).append slash).append (inLine_nat _)
  | v6 range => exact ((inLine_address rfl).append slash).append (inLine_nat _)

/-- The texts that the config is made of. -/
structure Texts (env : DeviceEnv) (deviceId ip serverKey : String) : Prop where
  device : InLine deviceId
  address : InLine ip
  dns : InLine env.wg.serverIp.text
  host : InLine env.settings.wgServerUrl
  server : InLine serverKey

theorem configWith_lines {env : DeviceEnv} {deviceId ip serverKey : String}
    (texts : Texts env deviceId ip serverKey) (key : String) :
    configWith key (clientConfig env deviceId ip serverKey) =
      configLines env deviceId ip serverKey key := by
  have front : '<' ∉ (headText deviceId ip).toList := by
    simp [headText, texts.device.2, texts.address.2]
  have port := inLine_nat env.settings.wgPort
  have network := inLine_network env.wg.subnet
  have rest : '<' ∉ ("\n" ++ restLines env serverKey).toList := by
    have digits : '<' ∉ Nat.toDigits 10 env.settings.wgPort := by simpa using port.2
    simp [restLines, endpoint, texts.dns.2, texts.host.2, texts.server.2, digits, network.2]
  have opens : placeholder = '<' :: "REPLACE_WITH_DEVICE_PRIVATE_KEY>".toList := by decide +kernel
  have before : (clientConfig env deviceId ip serverKey ++ "\n").toList =
      (headText deviceId ip).toList ++
        (placeholder ++ ("\n" ++ restLines env serverKey).toList) := by
    rw [clientConfig_lines, configLines_key, String.toList_append, String.toList_append]
    rfl
  have filled : Sed.replaceAll placeholder key.toList ((headText deviceId ip).toList ++
      (placeholder ++ ("\n" ++ restLines env serverKey).toList)) =
      (headText deviceId ip).toList ++
        (key.toList ++ ("\n" ++ restLines env serverKey).toList) := by
    rw [opens]
    exact Sed.replaceAll_once front rest
  unfold configWith
  rw [before, filled, configLines_key]
  apply String.toList_injective
  rw [String.toList_ofList, ← String.toList_append, ← String.toList_append]

/-! ## Reading the config -/

theorem cleaned_plain {text : String} (plain : Ini.Plain text.toList) :
    String.ofList (Ini.cleaned text.toList) = text := by
  rw [(Ini.cleaned_eq_self_iff _).mpr plain, String.ofList_toList]

/-- A line `name = value` of the config. -/
theorem linesOf_member {line : String} (c : Char) (n : List Char) (value : String)
    (text : line.toList = c :: n ++ [' ', '=', ' '] ++ value.toList)
    (name : c ≠ '[' ∧ '=' ∉ c :: n ∧ '\n' ∉ c :: n ∧ Ini.Plain (c :: n))
    (inLine : '\n' ∉ value.toList) : Ini.linesOf line =
      [.member (Ini.lowered (c :: n)) (.ofList (Ini.cleaned value.toList))] := by
  obtain ⟨first, unequal, newline, plain⟩ := name
  have whole : '\n' ∉ line.toList := by
    rw [text, List.mem_append, List.mem_append]
    rintro ((inside | inside) | inside)
    · exact newline inside
    · exact absurd inside (by decide)
    · exact inLine inside
  rw [Ini.linesOf_line whole, text, Ini.readLine_member _ first unequal plain]

/-- The sections of the config, with the device's own key in the first. -/
def configSections (env : DeviceEnv) (ip serverKey key : String) : List Ini.Section :=
  let read (value : String) : String := .ofList (Ini.cleaned value.toList)
  [⟨"interface", [("address", read (ip ++ "/24")), ("privatekey", read key),
      ("dns", read env.wg.serverIp.text)]⟩,
    ⟨"peer", [("publickey", read serverKey), ("endpoint", read (endpoint env.settings)),
      ("allowedips", read (networkText env.wg.subnet)), ("persistentkeepalive", read "25")]⟩]

theorem parse_config {env : DeviceEnv} {deviceId ip serverKey key : String}
    (texts : Texts env deviceId ip serverKey) (text : KeyText key) :
    Ini.parse (configWith key (clientConfig env deviceId ip serverKey)) =
      configSections env ip serverKey key := by
  have header : Ini.linesOf "[Interface]" = [.header "interface"] := by decide +kernel
  have peer : Ini.linesOf "[Peer]" = [.header "peer"] := by decide +kernel
  have empty : Ini.linesOf "" = [.blank] := by decide +kernel
  have comment : Ini.linesOf ("# Device: " ++ deviceId) = [.blank] := by
    have hash : ("# Device: " ++ deviceId).toList = '#' :: (" Device: " ++ deviceId).toList := by
      simp
    rw [Ini.linesOf_line (by simpa using texts.device.1), hash]
    unfold Ini.readLine
    rw [Ini.cleaned_comment]
    rfl
  have port := inLine_nat env.settings.wgPort
  have digits : '\n' ∉ Nat.toDigits 10 env.settings.wgPort := by simpa using port.1
  have keyLine : '\n' ∉ key.toList := fun inside => (key_clean text _ inside).2.2.2 rfl
  have address : Ini.linesOf ("Address = " ++ (ip ++ "/24")) = _ :=
    linesOf_member 'A' "ddress".toList (ip ++ "/24") (by simp) (by decide)
      (by simpa using texts.address.1)
  have private_ : Ini.linesOf ("PrivateKey = " ++ key) = _ :=
    linesOf_member 'P' "rivateKey".toList key (by simp) (by decide) keyLine
  have dns : Ini.linesOf ("DNS = " ++ env.wg.serverIp.text) = _ :=
    linesOf_member 'D' "NS".toList env.wg.serverIp.text (by simp) (by decide) texts.dns.1
  have public_ : Ini.linesOf ("PublicKey = " ++ serverKey) = _ :=
    linesOf_member 'P' "ublicKey".toList serverKey (by simp) (by decide) texts.server.1
  have server : Ini.linesOf ("Endpoint = " ++ endpoint env.settings) = _ :=
    linesOf_member 'E' "ndpoint".toList (endpoint env.settings) (by simp) (by decide)
      (by simp [endpoint, texts.host.1, digits])
  have allowed : Ini.linesOf ("AllowedIPs = " ++ networkText env.wg.subnet) = _ :=
    linesOf_member 'A' "llowedIPs".toList (networkText env.wg.subnet) (by simp) (by decide)
      (inLine_network _).1
  have alive : Ini.linesOf ("PersistentKeepalive = " ++ "25") = _ :=
    linesOf_member 'P' "ersistentKeepalive".toList "25" (by simp) (by decide) (by decide)
  have lines : Ini.linesOf (configLines env deviceId ip serverKey key) = _ :=
    Ini.linesOf_cons header (Ini.linesOf_cons comment (Ini.linesOf_cons address
      (Ini.linesOf_cons private_ (Ini.linesOf_cons dns (Ini.linesOf_cons empty
        (Ini.linesOf_cons peer (Ini.linesOf_cons public_ (Ini.linesOf_cons server
          (Ini.linesOf_cons allowed (Ini.linesOf_cons alive
            (Ini.linesOf_cons empty empty)))))))))))
  rw [configWith_lines texts, Ini.parse, lines]
  rfl

end CompleteDeviceManagement.Guarantees.DeviceConfig
