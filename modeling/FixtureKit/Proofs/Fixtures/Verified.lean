import FixtureKit.Fixtures.Verify
import FixtureKit.Proofs.Archive.DeclaredSizes

/-!
# What Verification Finds

Verification succeeds exactly if the two files have their sizes, the archive lists the two
names in order, and reading each gives the bytes of the file beside it. So what the entries
unpack to has the right sizes. The sizes that the archive declares are listed but not
looked at, and an archive verifies with any of them.

## Main results

* `report_eq_ok_iff`: a report is one artifact after the other.
* `verify_eq_ok_iff`: what a verification that succeeds has found, and nothing more.
* `verify_of_declarations`: good fixtures verify whatever sizes their archive declares.
-/

namespace FixtureKit

open Archive

section Looking

variable {fs : FileSystem} {path : String}

/-- A report is one artifact after the other. -/
theorem report_eq_ok_iff {layout : Layout} {report : Report} :
    fs.report layout = .ok report ↔
      fs.artifact layout.small = .ok report.small ∧ fs.artifact layout.large = .ok report.large ∧
        fs.artifact layout.archive = .ok report.archive := by
  rw [FileSystem.report]
  constructor
  · intro h
    cases hsmall : fs.artifact layout.small with
    | error e => rw [hsmall] at h; cases h
    | ok small =>
        cases hlarge : fs.artifact layout.large with
        | error e => rw [hsmall, hlarge] at h; cases h
        | ok large =>
            cases harchive : fs.artifact layout.archive with
            | error e => rw [hsmall, hlarge, harchive] at h; cases h
            | ok archive =>
                rw [hsmall, hlarge, harchive] at h
                cases h
                exact ⟨rfl, rfl, rfl⟩
  · rintro ⟨hsmall, hlarge, harchive⟩
    rw [hsmall, hlarge, harchive]
    rfl

/-- What can be read has the size that its status tells. -/
theorem artifact_of_contentOf {content : ByteArray} (h : fs.contentOf path = .ok content) :
    fs.artifact path = .ok ⟨path, content.size⟩ := by
  rw [FileSystem.contentOf] at h
  rw [FileSystem.artifact]
  cases hobject : fs.object? path with
  | error cause => rw [hobject] at h; cases h
  | ok object =>
      rw [hobject] at h
      cases object <;> cases h
      · rfl
      · rfl

/-- The size that is reported for a file is that of what it holds. -/
theorem size_of_artifact {artifact : Artifact} {content : ByteArray}
    (h : fs.artifact path = .ok artifact) (hcontent : fs.contentOf path = .ok content) :
    artifact.size = content.size := by
  obtain rfl := Except.ok.inj (h.symm.trans (artifact_of_contentOf hcontent))
  rfl

/-- A report on files that can be read tells how long these are. -/
theorem report_of_contentOf {layout : Layout} {small large archive : ByteArray}
    (hsmall : fs.contentOf layout.small = .ok small)
    (hlarge : fs.contentOf layout.large = .ok large)
    (harchive : fs.contentOf layout.archive = .ok archive) :
    fs.report layout =
      .ok ⟨⟨layout.small, small.size⟩, ⟨layout.large, large.size⟩,
        ⟨layout.archive, archive.size⟩⟩ :=
  report_eq_ok_iff.2 ⟨artifact_of_contentOf hsmall, artifact_of_contentOf hlarge,
    artifact_of_contentOf harchive⟩

end Looking

section Expecting

variable {fs : FileSystem} {archive : String}

/-- A size passes exactly if it is the one that is expected. -/
theorem expectSize_eq_ok_iff {artifact : Artifact} {expected : Nat} :
    expectSize artifact expected = .ok () ↔ artifact.size = expected := by
  rw [expectSize]
  split
  · next h => simp only [h]
  · next h => simp only [h, reduceCtorEq]

/-- A listing passes exactly if it has the names that are expected, in their order. The sizes are
not looked at. -/
theorem expectEntries_eq_ok_iff {expected : List String} :
    expectEntries fs archive expected = .ok () ↔
      ∃ infos, listEntries fs archive = .ok infos ∧ infos.map EntryInfo.name = expected := by
  rw [expectEntries]
  cases listEntries fs archive with
  | error e => simp
  | ok infos => simp

/-- An entry passes exactly if it and its source can be read and have the same bytes. -/
theorem expectContent_eq_ok_iff {entry : Entry} :
    expectContent fs archive entry = .ok () ↔
      ∃ content, fs.contentOf entry.source = .ok content ∧
        readEntry fs archive entry.name = .ok content := by
  rw [expectContent]
  cases fs.contentOf entry.source with
  | error cause => simp
  | ok content =>
      cases readEntry fs archive entry.name with
      | error e => simp
      | ok found => simp

/-- Entries pass exactly if each of them does. -/
theorem expectContents_eq_ok_iff {entries : List Entry} :
    expectContents fs archive entries = .ok () ↔
      ∀ entry ∈ entries, expectContent fs archive entry = .ok () := by
  induction entries with
  | nil => simp [expectContents]
  | cons entry entries ih =>
      rw [expectContents, List.forall_mem_cons, ← ih]
      cases expectContent fs archive entry with
      | error e => simp
      | ok _ => simp

end Expecting

/-- Verification is a report and four checks. -/
theorem verify_eq_ok_iff_checks {fs : FileSystem} {destination : String} {report : Report} :
    verify fs destination = .ok report ↔
      fs.report (Layout.of destination) = .ok report ∧
        expectSize report.small smallSize = .ok () ∧ expectSize report.large largeSize = .ok () ∧
        expectEntries fs (Layout.of destination).archive [smallName, largeName] = .ok () ∧
        expectContents fs (Layout.of destination).archive (Layout.of destination).entries =
          .ok () := by
  constructor
  · intro h
    have hreport := verify_eq_ok h
    simp only [verify, hreport, bind, Except.bind] at h
    cases hsmall : expectSize report.small smallSize with
    | error e => rw [hsmall] at h; cases h
    | ok _ =>
        cases hlarge : expectSize report.large largeSize with
        | error e => rw [hsmall, hlarge] at h; cases h
        | ok _ =>
            rw [hsmall, hlarge] at h
            simp only at h
            cases hentries : expectEntries fs (Layout.of destination).archive
                [smallName, largeName] with
            | error e => rw [hentries] at h; cases h
            | ok _ =>
                rw [hentries] at h
                simp only at h
                cases hcontents : expectContents fs (Layout.of destination).archive
                    (Layout.of destination).entries with
                | error e => rw [hcontents] at h; cases h
                | ok _ => exact ⟨hreport, rfl, rfl, rfl, rfl⟩
  · rintro ⟨hreport, hsmall, hlarge, hentries, hcontents⟩
    simp only [verify, hreport, bind, Except.bind, hsmall, hlarge, hentries, hcontents]
    rfl

/-- Two names in a listing leave two sizes open. -/
theorem exists_sizes_of_map_name {infos : List EntryInfo} {first second : String} :
    infos.map EntryInfo.name = [first, second] ↔
      ∃ firstSize secondSize, infos = [⟨first, firstSize⟩, ⟨second, secondSize⟩] := by
  constructor
  · intro h
    match infos, h with
    | [⟨_, firstSize⟩, ⟨_, secondSize⟩], rfl => exact ⟨firstSize, secondSize, rfl⟩
  · rintro ⟨firstSize, secondSize, rfl⟩
    rfl

/-- **What verification finds.** It succeeds with a report exactly if that is the report on the
layout, both files have their sizes, the archive lists the two names in order with some sizes, and
each of them reads as the bytes of the file beside it. -/
theorem verify_eq_ok_iff (fs : FileSystem) (destination : String) (report : Report) :
    verify fs destination = .ok report ↔
      fs.report (Layout.of destination) = .ok report ∧
        report.small.size = 8 ∧ report.large.size = 10485760 ∧
        (∃ declaredSmall declaredLarge, listEntries fs (Layout.of destination).archive =
          .ok [⟨"small", declaredSmall⟩, ⟨"large", declaredLarge⟩]) ∧
        (∃ small, small.size = 8 ∧ fs.contentOf (Layout.of destination).small = .ok small ∧
          readEntry fs (Layout.of destination).archive "small" = .ok small) ∧
        ∃ large, large.size = 10485760 ∧ fs.contentOf (Layout.of destination).large = .ok large ∧
          readEntry fs (Layout.of destination).archive "large" = .ok large := by
  rw [verify_eq_ok_iff_checks, expectSize_eq_ok_iff, expectSize_eq_ok_iff, expectEntries_eq_ok_iff,
    expectContents_eq_ok_iff]
  simp only [Layout.entries, List.forall_mem_cons, expectContent_eq_ok_iff,
    exists_sizes_of_map_name]
  constructor
  · rintro ⟨hreport, hsmallSize, hlargeSize, ⟨_, hlist, declaredSmall, declaredLarge, rfl⟩,
      ⟨small, hsmall, hreadSmall⟩, ⟨large, hlarge, hreadLarge⟩, -⟩
    obtain ⟨hfirst, hsecond, -⟩ := report_eq_ok_iff.1 hreport
    -- What is read of a file is as long as its artifact says.
    have hsmallRead := (size_of_artifact hfirst hsmall).symm.trans hsmallSize
    have hlargeRead := (size_of_artifact hsecond hlarge).symm.trans hlargeSize
    exact ⟨hreport, hsmallSize, hlargeSize, ⟨declaredSmall, declaredLarge, hlist⟩,
      ⟨small, hsmallRead, hsmall, hreadSmall⟩, ⟨large, hlargeRead, hlarge, hreadLarge⟩⟩
  · rintro ⟨hreport, hsmallSize, hlargeSize, ⟨declaredSmall, declaredLarge, hlist⟩,
      ⟨small, -, hsmall, hreadSmall⟩, ⟨large, -, hlarge, hreadLarge⟩⟩
    exact ⟨hreport, hsmallSize, hlargeSize, ⟨_, hlist, declaredSmall, declaredLarge, rfl⟩,
      ⟨small, hsmall, hreadSmall⟩, ⟨large, hlarge, hreadLarge⟩, List.forall_mem_nil _⟩

/-! ### Sizes that are not looked at -/

/-- The two files with the sizes that an archive declares for them. -/
def fixtureDeclarations (small large : ByteArray) (declaredSmall declaredLarge : Nat) :
    List Declaration :=
  [⟨smallName, small, declaredSmall⟩, ⟨largeName, large, declaredLarge⟩]

/-- Files of the right sizes can be held with any sizes that the size fields can tell. -/
theorem holdable_fixtureDeclarations {small large : ByteArray} {declaredSmall declaredLarge : Nat}
    (hsmall : small.size = 8) (hlarge : large.size = 10485760)
    (hdeclaredSmall : declaredSmall < 2 ^ 32) (hdeclaredLarge : declaredLarge < 2 ^ 32) :
    Holdable ((fixtureDeclarations small large declaredSmall declaredLarge).map
      (Declaration.member .stored)) := by
  have hsmallName : (nameBytes smallName).length = 5 := by decide
  have hlargeName : (nameBytes largeName).length = 5 := by decide
  refine ⟨?_, ?_, ?_, ?_⟩
  · change [smallName, largeName].Nodup
    decide
  · intro member hmem
    simp only [fixtureDeclarations, List.map_cons, List.map_nil, List.mem_cons, List.not_mem_nil,
      or_false] at hmem
    rcases hmem with rfl | rfl
    · refine ⟨?_, ?_, hdeclaredSmall⟩
      · change (nameBytes smallName).length < 0x10000
        omega
      · change small.size < 0x100000000
        omega
    · refine ⟨?_, ?_, hdeclaredLarge⟩
      · change (nameBytes largeName).length < 0x10000
        omega
      · change large.size < 0x100000000
        omega
  · simp [fixtureDeclarations]
  · simp only [fixtureDeclarations, List.map_cons, List.map_nil, size_localPart_cons, localPart_nil,
      ByteArray.size_empty, Member.extent_eq, Declaration.member, memberOf, hsmallName, hlargeName]
    omega

/-- Good fixtures verify whatever sizes their archive declares, and these are listed. -/
theorem verify_of_declarations {fs : FileSystem} {destination : String} {small large : ByteArray}
    {declaredSmall declaredLarge : Nat}
    (hsmall : fs.contentOf (Layout.of destination).small = .ok small) (hsmallSize : small.size = 8)
    (hlarge : fs.contentOf (Layout.of destination).large = .ok large)
    (hlargeSize : large.size = 10485760)
    (harchive : fs.contentOf (Layout.of destination).archive =
      .ok (encode ((fixtureDeclarations small large declaredSmall declaredLarge).map
        (Declaration.member .stored))))
    (hdeclaredSmall : declaredSmall < 2 ^ 32) (hdeclaredLarge : declaredLarge < 2 ^ 32) :
    (∃ report, verify fs destination = .ok report) ∧
      listEntries fs (Layout.of destination).archive =
        .ok [⟨"small", declaredSmall⟩, ⟨"large", declaredLarge⟩] := by
  have hholdable := holdable_fixtureDeclarations hsmallSize hlargeSize hdeclaredSmall hdeclaredLarge
  obtain ⟨hlist, hread⟩ := delivers_declarations hholdable harchive
  have hreport := report_of_contentOf hsmall hlarge harchive
  have hentries : expectEntries fs (Layout.of destination).archive [smallName, largeName] =
      .ok () := expectEntries_eq_ok_iff.2 ⟨_, hlist, rfl⟩
  have hcontents : expectContents fs (Layout.of destination).archive
      (Layout.of destination).entries = .ok () := by
    simp only [expectContents_eq_ok_iff, expectContent_eq_ok_iff, Layout.entries,
      List.forall_mem_cons]
    refine ⟨⟨small, hsmall, ?_⟩, ⟨large, hlarge, ?_⟩, List.forall_mem_nil _⟩
    · exact hread ⟨smallName, small, declaredSmall⟩ List.mem_cons_self
    · exact hread ⟨largeName, large, declaredLarge⟩ (List.mem_cons_of_mem _ List.mem_cons_self)
  exact ⟨⟨_, verify_eq_ok_iff_checks.2 ⟨hreport, expectSize_eq_ok_iff.2 hsmallSize,
    expectSize_eq_ok_iff.2 hlargeSize, hentries, hcontents⟩⟩, hlist⟩

/-! ### A forged directory

The files are of the right sizes and hold zeros; the archive declares a ninth byte for the small
one. -/

/-- The bytes of the small file. -/
def smallZeros : ByteArray :=
  ⟨Array.replicate 8 0⟩

/-- The bytes of the large file. -/
def largeZeros : ByteArray :=
  ⟨Array.replicate 10485760 0⟩

/-- A destination with the two files and their archive. -/
def overstatedFiles : FileSystem where
  workingDirectory := ["w"]
  objects :=
    [(["d", "w"], .directory), (["small", "d", "w"], .file smallZeros),
      (["large", "d", "w"], .file largeZeros),
      (["test.zip", "d", "w"],
        .file (encode ((fixtureDeclarations smallZeros largeZeros 9 10485760).map
          (Declaration.member .stored))))]

/-- The destination verifies, and its listing shows the ninth byte. -/
theorem verify_overstated :
    (∃ report, verify overstatedFiles "d" = .ok report) ∧
      listEntries overstatedFiles "d/test.zip" = .ok [⟨"small", 9⟩, ⟨"large", 10485760⟩] := by
  have hsmallSize : smallZeros.size = 8 := Array.size_replicate
  have hlargeSize : largeZeros.size = 10485760 := Array.size_replicate
  have hsmall : overstatedFiles.contentOf (Layout.of "d").small = .ok smallZeros := rfl
  have hlarge : overstatedFiles.contentOf (Layout.of "d").large = .ok largeZeros := rfl
  exact verify_of_declarations hsmall hsmallSize hlarge hlargeSize rfl (by decide) (by decide)

end FixtureKit
