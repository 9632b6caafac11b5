import Myngrok.Go.Unicode
import Myngrok.Tunnels.Subdomain

open golang

namespace myngrok.tunnels

variable {lower : GoString → GoString} {host baseDomain label other : GoString}

/-- What may stand before the base domain: small letters, digits and hyphens. -/
def Label (s : GoString) : Prop := s ≠ [] ∧ s.all subdomainByte = true

/-- A host of the base domain with a label. Both are in normal form. -/
def Names (host baseDomain label : GoString) : Prop :=
  baseDomain ≠ [] ∧ host = label ++ lit "." ++ baseDomain ∧ Label label

theorem label_of_generated {reads : List (Except Error UInt8)} {subdomain : GoString}
    (h : generateSubdomain reads = some (.ok subdomain)) : Label subdomain := by
  obtain ⟨hlength, hbytes⟩ := generateSubdomain_spec h
  refine ⟨fun hnil => ?_, hbytes⟩
  rw [hnil] at hlength
  cases hlength

theorem Label.notMem_dot (h : Label label) : 0x2E ∉ label := by
  intro hmem
  have hbyte := List.all_eq_true.mp h.2 _ hmem
  revert hbyte
  decide

/-- There is one way to read a host. -/
theorem Names.unique (h : Names host baseDomain label) (h' : Names host baseDomain other) : label = other := by
  obtain ⟨_, rfl, _⟩ := h
  obtain ⟨_, hsame, _⟩ := h'
  rw [List.append_assoc, List.append_assoc] at hsame
  exact List.append_cancel_right hsame

/-- The parser by its grammar. -/
theorem parsePublicHostIn_eq_some_iff :
    parsePublicHostIn lower host baseDomain = some label ↔
      Names (normalizeHostIn lower host) (normalForm lower baseDomain) label := by
  rw [parsePublicHostIn]
  generalize normalizeHostIn lower host = host
  generalize normalForm lower baseDomain = baseDomain
  constructor
  · intro h
    dsimp only at h
    split at h
    · cases h
    · next hempty =>
      split at h
      · cases h
      · next hsuffix =>
        split at h
        · cases h
        · next hlabel =>
          split at h
          · next hbytes =>
            have hends : strings.hasSuffix host (lit "." ++ baseDomain) = true := by simpa using hsuffix
            obtain ⟨start, rfl⟩ := List.isSuffixOf_iff_suffix.mp hends
            rw [strings.trimSuffix_append] at h hlabel hbytes
            cases h
            refine ⟨fun hbase => hempty (.inr hbase), (List.append_assoc _ _ _).symm, fun hnil => hlabel (.inl hnil), ?_⟩
            exact hbytes
          · cases h
  · rintro ⟨hbase, rfl, hlabel⟩
    have hnil : ¬(label ++ lit "." ++ baseDomain = [] ∨ baseDomain = []) := by
      rintro (hnil | hnil)
      · simp [hbase] at hnil
      · exact hbase hnil
    have hfine : ¬(label = [] ∨ 0x2E ∈ label) := not_or.mpr ⟨hlabel.1, hlabel.notMem_dot⟩
    dsimp only
    rw [if_neg hnil, List.append_assoc, strings.hasSuffix_append, strings.trimSuffix_append, if_neg (by decide),
      if_neg hfine, if_pos hlabel.2]

section ports

variable {table : unicode.CaseTable} {port s : GoString}

/-- A text without the signs of a port and of an IPv6 address. -/
def PortFree (s : GoString) : Prop := ∀ b ∈ s, b ≠ 0x3A ∧ b ≠ 0x5B ∧ b ≠ 0x5D

theorem PortFree.of_all (h : s.all (fun b => b != 0x3A && b != 0x5B && b != 0x5D) = true) : PortFree s := by
  intro b hb
  simpa [and_assoc] using List.all_eq_true.mp h b hb

theorem PortFree.toLowerIn (h : PortFree s) : PortFree (strings.toLowerIn table s) := by
  have hmark : ∀ mark : UInt8, mark.toNat < 0x80 → ¬(0x61 ≤ mark.toNat ∧ mark.toNat ≤ 0x7A) → mark ∉ s →
      mark ∉ strings.toLowerIn table s := fun mark hascii hsmall hnot hmem =>
    hnot (strings.mem_of_mem_toLowerIn hascii hsmall hmem)
  intro b hb
  refine ⟨?_, ?_, ?_⟩
  · rintro rfl
    exact hmark 0x3A (by decide) (by decide) (fun hmem => (h _ hmem).1 rfl) hb
  · rintro rfl
    exact hmark 0x5B (by decide) (by decide) (fun hmem => (h _ hmem).2.1 rfl) hb
  · rintro rfl
    exact hmark 0x5D (by decide) (by decide) (fun hmem => (h _ hmem).2.2 rfl) hb

theorem normalizeHostIn_of_portFree (h : PortFree host) :
    normalizeHostIn (strings.toLowerIn table) host = normalForm (strings.toLowerIn table) host := by
  have htrimmed : PortFree (strings.trimSuffix (strings.trimSpace host) (lit ".")) :=
    fun b hb => h b (strings.mem_of_mem_trimSpace (strings.mem_of_mem_trimSuffix hb))
  have hcolon : 0x3A ∉ normalForm (strings.toLowerIn table) host := fun hmem => (htrimmed.toLowerIn _ hmem).1 rfl
  rw [normalizeHostIn, net.splitHostPort_of_notMem hcolon]

/-- A port stands between the dot at the end of a host and the end of the text. -/
theorem normalForm_port (hspace : strings.spaceFree host = true) (hport : ∀ b ∈ port, utf8.within 0x30 0x39 b = true) :
    normalForm (strings.toLowerIn table) (host ++ 0x3A :: port) = strings.toLowerIn table host ++ 0x3A :: port := by
  have hdigit : ∀ b : UInt8, utf8.within 0x30 0x39 b = true →
      b.toNat < 0x80 ∧ unicode.isSpace b.toNat = false ∧ b ≠ 0x2E ∧ utf8.within 0x41 0x5A b = false := by
    rintro ⟨⟨n⟩⟩
    revert n
    decide +kernel
  obtain ⟨before, last, htext, hascii, hlast, hdot⟩ : ∃ before last, host ++ 0x3A :: port = before ++ [last] ∧
      last.toNat < 0x80 ∧ unicode.isSpace last.toNat = false ∧ last ≠ 0x2E := by
    by_cases hempty : port = []
    · subst hempty
      exact ⟨host, 0x3A, rfl, by decide, by decide, by decide⟩
    · obtain ⟨hascii, hlast, hdot, _⟩ := hdigit _ (hport _ (List.getLast_mem hempty))
      refine ⟨host ++ 0x3A :: port.dropLast, port.getLast hempty, ?_, hascii, hlast, hdot⟩
      rw [List.append_assoc, List.cons_append, List.dropLast_append_getLast]
  have htrim : strings.trimSpace (host ++ 0x3A :: port) = host ++ 0x3A :: port := by
    apply strings.trimSpace_eq_self
    · intro _
      by_cases hempty : host = []
      · subst hempty
        rw [List.nil_append, utf8.decodeRune_ascii (by decide)]
        decide
      · rw [(utf8.decodeRune_append hempty (by decide) port).1]
        exact strings.spaceFree_drop hspace (List.length_pos_iff.mpr hempty)
    · intro _
      rw [htext, strings.decodeLastRune_concat_ascii before hascii]
      exact hlast
  have hdigits : strings.toLowerIn table port = port := by
    rw [strings.toLowerIn_ascii table fun b hb => (hdigit b (hport b hb)).1, strings.toLower]
    conv => rhs; rw [← List.map_id port]
    apply List.map_congr_left
    intro b hb
    rw [(hdigit b (hport b hb)).2.2.2]
    rfl
  have hnodot : strings.trimSuffix (host ++ 0x3A :: port) (lit ".") = host ++ 0x3A :: port := by
    rw [htext]
    exact strings.trimSuffix_concat_ne before hdot
  rw [normalForm, htrim, hnodot, strings.toLowerIn_append table host (by decide) port, hdigits]
  rfl

theorem normalizeHostIn_port (hfree : PortFree host) (hspace : strings.spaceFree host = true)
    (hport : ∀ b ∈ port, utf8.within 0x30 0x39 b = true) :
    normalizeHostIn (strings.toLowerIn table) (host ++ 0x3A :: port) = strings.toLowerIn table host := by
  have hdigit : ∀ b : UInt8, utf8.within 0x30 0x39 b = true → b ≠ 0x3A ∧ b ≠ 0x5B ∧ b ≠ 0x5D := by
    rintro ⟨⟨n⟩⟩
    revert n
    decide +kernel
  rw [normalizeHostIn, normalForm_port hspace hport,
    net.splitHostPort_append hfree.toLowerIn fun b hb => hdigit b (hport b hb)]

theorem parsePublicHostIn_congr (h : normalizeHostIn lower host = normalizeHostIn lower other) :
    parsePublicHostIn lower host baseDomain = parsePublicHostIn lower other baseDomain := by
  rw [parsePublicHostIn, h, parsePublicHostIn]

/-- The port makes no difference, unless the host has a dot at its end and names a label of the base domain with that
    dot or without it: the dot is taken away only at the end of the text. -/
theorem parsePublicHost_port_iff (table : unicode.CaseTable) {host port : GoString} (baseDomain : GoString)
    (hfree : PortFree host) (hspace : strings.spaceFree host = true)
    (hport : ∀ b ∈ port, utf8.within 0x30 0x39 b = true) :
    parsePublicHostIn (strings.toLowerIn table) (host ++ 0x3A :: port) baseDomain =
        parsePublicHostIn (strings.toLowerIn table) host baseDomain ↔
      strings.hasSuffix host (lit ".") = false ∨
        ∀ label, ¬Names (strings.toLowerIn table host) (normalForm (strings.toLowerIn table) baseDomain) label ∧
          ¬Names (strings.toLowerIn table (strings.trimSuffix host (lit ".")))
            (normalForm (strings.toLowerIn table) baseDomain) label := by
  have hwith := @normalizeHostIn_port host table port hfree hspace hport
  have hwithout : normalizeHostIn (strings.toLowerIn table) host =
      strings.toLowerIn table (strings.trimSuffix host (lit ".")) := by
    rw [normalizeHostIn_of_portFree hfree, normalForm, strings.trimSpace_of_spaceFree hspace]
  by_cases hdot : strings.hasSuffix host (lit ".") = true
  · obtain ⟨name, rfl⟩ := List.isSuffixOf_iff_suffix.mp hdot
    rw [strings.trimSuffix_append] at hwithout ⊢
    have hlonger : strings.toLowerIn table (name ++ lit ".") = strings.toLowerIn table name ++ lit "." :=
      strings.toLowerIn_append table name (by decide) []
    have hdistinct : strings.toLowerIn table (name ++ lit ".") ≠ strings.toLowerIn table name := by
      rw [hlonger]
      intro hsame
      have hlength := congrArg List.length hsame
      rw [List.length_append, show (lit ".").length = 1 from rfl] at hlength
      omega
    rw [hdot, or_iff_right (by decide)]
    constructor
    · intro hsame label
      constructor
      · intro hnames
        rw [← hwith] at hnames
        have hparsed := hsame.symm.trans (parsePublicHostIn_eq_some_iff.mpr hnames)
        have hother := parsePublicHostIn_eq_some_iff.mp hparsed
        rw [hwith] at hnames
        rw [hwithout] at hother
        exact hdistinct (hnames.2.1.trans hother.2.1.symm)
      · intro hnames
        rw [← hwithout] at hnames
        have hparsed := hsame.trans (parsePublicHostIn_eq_some_iff.mpr hnames)
        have hother := parsePublicHostIn_eq_some_iff.mp hparsed
        rw [hwithout] at hnames
        rw [hwith] at hother
        exact hdistinct (hother.2.1.trans hnames.2.1.symm)
    · intro hneither
      have hnone : ∀ {text : GoString}, (∀ label, ¬Names (normalizeHostIn (strings.toLowerIn table) text)
          (normalForm (strings.toLowerIn table) baseDomain) label) →
          parsePublicHostIn (strings.toLowerIn table) text baseDomain = none := by
        intro text hnot
        apply Option.eq_none_iff_forall_ne_some.mpr
        intro label hlabel
        exact hnot label (parsePublicHostIn_eq_some_iff.mp hlabel)
      rw [hnone fun label => hwith.symm ▸ (hneither label).1, hnone fun label => hwithout.symm ▸ (hneither label).2]
  · have hnodot := eq_false_of_ne_true hdot
    refine iff_of_true (parsePublicHostIn_congr ?_) (.inl hnodot)
    rw [hwith, hwithout, strings.trimSuffix, hnodot]
    rfl

/-- A fully qualified name is found without a port, and not with one. -/
theorem parsePublicHost_loses_port :
    parsePublicHostIn (strings.toLowerIn .asciiOnly) (lit "demo.tunnel.example.") (lit "tunnel.example") =
        some (lit "demo") ∧
      parsePublicHostIn (strings.toLowerIn .asciiOnly) (lit "demo.tunnel.example.:8080") (lit "tunnel.example") = none := by
  decide +kernel

theorem parsePublicHost_with_port :
    parsePublicHostIn (strings.toLowerIn .asciiOnly) (lit "Demo.tunnel.example:8080") (lit "tunnel.example") =
      parsePublicHostIn (strings.toLowerIn .asciiOnly) (lit "Demo.tunnel.example") (lit "tunnel.example") :=
  (@parsePublicHost_port_iff .asciiOnly (lit "Demo.tunnel.example") (lit "8080") (lit "tunnel.example")
    (.of_all (by decide)) (by decide) (List.all_eq_true.mp (by decide))).mpr (.inl (by decide))

end ports

end myngrok.tunnels
