import Myngrok.Server.Lifecycle
import Myngrok.Tunnels.HostGrammar

open golang myngrok.protocol myngrok.tunnels

namespace myngrok.server

variable {table : unicode.CaseTable} {host baseDomain subdomain : GoString}

/-- ASCII text without the signs of a port and of an IPv6 address. -/
def PlainHost (s : GoString) : Prop := (∀ b ∈ s, b.toNat < 0x80) ∧ PortFree s

theorem normalForm_plain (h : PlainHost host) :
    normalForm (strings.toLowerIn table) host = normalForm strings.toLower host := by
  apply strings.toLowerIn_ascii
  intro b hb
  exact h.1 b (strings.mem_of_mem_trimSpace (strings.mem_of_mem_trimSuffix hb))

theorem subdomainByte_plain : ∀ b : UInt8, subdomainByte b = true →
    b.toNat < 0x80 ∧ (b ≠ 0x3A ∧ b ≠ 0x5B ∧ b ≠ 0x5D) ∧ unicode.isSpace b.toNat = false ∧
      utf8.within 0x41 0x5A b = false := by
  rintro ⟨⟨n⟩⟩
  revert n
  decide +kernel

theorem plainHost_append (hlabel : Label subdomain) (hbase : PlainHost baseDomain) :
    PlainHost (subdomain ++ lit "." ++ baseDomain) := by
  have hsubdomain : ∀ b ∈ subdomain, b.toNat < 0x80 ∧ (b ≠ 0x3A ∧ b ≠ 0x5B ∧ b ≠ 0x5D) := by
    intro b hb
    obtain ⟨hascii, hfree, _⟩ := subdomainByte_plain b (List.all_eq_true.mp hlabel.2 b hb)
    exact ⟨hascii, hfree⟩
  have hdot : ∀ b ∈ lit ".", b.toNat < 0x80 ∧ (b ≠ 0x3A ∧ b ≠ 0x5B ∧ b ≠ 0x5D) := by
    intro b hb
    rw [List.mem_singleton.mp hb]
    decide
  constructor
  · intro b hb
    simp only [List.mem_append] at hb
    rcases hb with (hb | hb) | hb
    · exact (hsubdomain b hb).1
    · exact (hdot b hb).1
    · exact hbase.1 b hb
  · intro b hb
    simp only [List.mem_append] at hb
    rcases hb with (hb | hb) | hb
    · exact (hsubdomain b hb).2
    · exact (hdot b hb).2
    · exact hbase.2 b hb

/-- A label before a base domain stays there when the whole is brought into normal form. -/
theorem normalForm_append (hlabel : Label subdomain) (hbase : PlainHost baseDomain)
    (htrimmed : strings.trimSpace baseDomain = baseDomain) (hnonempty : baseDomain ≠ []) :
    normalForm strings.toLower (subdomain ++ lit "." ++ baseDomain) =
      subdomain ++ lit "." ++ normalForm strings.toLower baseDomain := by
  have hbytes := List.all_eq_true.mp hlabel.2
  have htrim : strings.trimSpace (subdomain ++ lit "." ++ baseDomain) = subdomain ++ lit "." ++ baseDomain := by
    apply strings.trimSpace_eq_self
    · intro _
      obtain ⟨b, rest, rfl⟩ := List.exists_cons_of_ne_nil hlabel.1
      obtain ⟨hascii, _, hspace, _⟩ := subdomainByte_plain b (hbytes b List.mem_cons_self)
      rw [List.cons_append, List.cons_append, utf8.decodeRune_ascii hascii]
      exact hspace
    · intro _
      have hlast := List.dropLast_append_getLast hnonempty
      have hascii := hbase.1 _ (List.getLast_mem hnonempty)
      rw [← hlast] at htrimmed ⊢
      rw [← List.append_assoc, strings.decodeLastRune_concat_ascii _ hascii]
      exact strings.not_space_of_trimSpace hascii htrimmed
  have hlower : strings.toLower subdomain = subdomain := by
    rw [strings.toLower]
    conv => rhs; rw [← List.map_id subdomain]
    apply List.map_congr_left
    intro b hb
    rw [(subdomainByte_plain b (hbytes b hb)).2.2.2]
    rfl
  rw [normalForm, htrim, normalForm, htrimmed]
  rw [show lit "." = [0x2E] from rfl, strings.trimSuffix_append_singleton _ hnonempty, strings.toLower, List.map_append,
    List.map_append, ← strings.toLower, hlower]
  rfl

/-- The grammar of public hosts. Besides, the host in the URL of a tunnel, with a subdomain that has been generated,
    leads back to the subdomain; and no host has two readings. -/
theorem publicHost_grammar (table : unicode.CaseTable) {host baseDomain : GoString} (hhost : PlainHost host)
    (hbase : PlainHost baseDomain) :
    (∀ label, parsePublicHostIn (strings.toLowerIn table) host baseDomain = some label ↔
      normalForm strings.toLower baseDomain ≠ [] ∧
        normalForm strings.toLower host = label ++ lit "." ++ normalForm strings.toLower baseDomain ∧ Label label) ∧
    (∀ reads tunnel payload, generateSubdomain reads = some (.ok tunnel.subdomain) →
      strings.trimSpace baseDomain = baseDomain → normalForm strings.toLower baseDomain ≠ [] →
      ∃ publicHost, (openedPayload baseDomain payload tunnel).publicURL = lit "https://" ++ publicHost ∧
        parsePublicHostIn (strings.toLowerIn table) publicHost baseDomain = some tunnel.subdomain) ∧
    ∀ label other, Names (normalForm strings.toLower host) (normalForm strings.toLower baseDomain) label →
      Names (normalForm strings.toLower host) (normalForm strings.toLower baseDomain) other → label = other := by
  have hgrammar : ∀ {host}, PlainHost host → ∀ label,
      parsePublicHostIn (strings.toLowerIn table) host baseDomain = some label ↔
        Names (normalForm strings.toLower host) (normalForm strings.toLower baseDomain) label := by
    intro host hhost label
    rw [parsePublicHostIn_eq_some_iff, normalizeHostIn_of_portFree hhost.2, normalForm_plain hhost,
      normalForm_plain hbase]
  refine ⟨hgrammar hhost, fun reads tunnel payload hgenerated htrimmed hnonempty => ?_, fun label other => Names.unique⟩
  have hlabel := label_of_generated hgenerated
  have hsome : baseDomain ≠ [] := by
    rintro rfl
    exact hnonempty rfl
  refine ⟨tunnel.subdomain ++ lit "." ++ baseDomain, ?_, ?_⟩
  · rw [openedPayload, List.append_assoc, List.append_assoc, List.append_assoc]
  · rw [hgrammar (plainHost_append hlabel hbase), normalForm_append hlabel hbase htrimmed hsome]
    exact ⟨hnonempty, rfl, hlabel⟩

theorem publicHost_grammar_demo :
    parsePublicHostIn (strings.toLowerIn .asciiOnly) (lit " Demo.tunnel.example.") (lit "Tunnel.Example") =
      some (lit "demo") := by
  have hascii : ∀ {s : GoString}, s.all (·.toNat < 0x80) = true → ∀ b ∈ s, b.toNat < 0x80 :=
    fun hall b hb => of_decide_eq_true (List.all_eq_true.mp hall b hb)
  have hhost : PlainHost (lit " Demo.tunnel.example.") := ⟨hascii (by decide), .of_all (by decide)⟩
  have hbase : PlainHost (lit "Tunnel.Example") := ⟨hascii (by decide), .of_all (by decide)⟩
  exact ((publicHost_grammar .asciiOnly hhost hbase).1 _).mpr ⟨by decide, by decide, by decide, by decide⟩

end myngrok.server
