import DrawingCode.Proofs.Generation.Agreement

/-! # Where settings go

Settings can be handed over as a whole, one by one, or to the two generators, which are then run one
after the other. All of these give the same texts or fail alike, and log the same. In the texts, the
name of the tool and the path of the header have their place in the preamble, and the path only in
that of the implementation. What follows the preambles depends on no setting but the prefix.
-/

namespace DrawingCode

/-- A run for a header and an implementation does what a run for the one and then a run for the
other do. -/
structure Run.Pairs (header implementation : Run String) (both : Run Sources) : Prop where
  succeeds : ∀ {declared defined}, header.outcome = .ok declared →
    implementation.outcome = .ok defined →
      both.outcome = .ok ⟨declared, defined⟩ ∧ both.log = header.log ++ implementation.log
  failsFirst : ∀ {e}, header.outcome = .error e →
    both.outcome = .error e ∧ both.log = header.log
  failsSecond : ∀ {declared e}, header.outcome = .ok declared →
    implementation.outcome = .error e →
      both.outcome = .error e ∧ both.log = header.log ++ implementation.log

private theorem Run.pairs_andThen {header : Run String} {implementation : Run String} :
    header.Pairs implementation (header.andThen fun declared _ =>
      implementation.map fun defined => ⟨declared, defined⟩) := by
  constructor
  · intro declared defined first second
    simp [Run.andThen, Run.map, first, second, Except.map]
  · intro e first
    simp [Run.andThen, first]
  · intro declared e first second
    simp [Run.andThen, Run.map, first, second, Except.map]

namespace Generator

/-- Two texts are the same behind the preambles of the generators that they are from. -/
def SameBehindPreambles (generator other : Generator) (text otherText : String) : Prop :=
  ∃ rest, text = Code.filePreamble generator ++ rest ∧ otherText = Code.filePreamble other ++ rest

/-- Two generators write the same lines. -/
structure SameLines (generator other : Generator) : Prop where
  command : ∀ item issued, generator.command item issued = other.command item issued
  opening : ∀ imageName size, generator.opening imageName size = other.opening imageName size
  closing : generator.closing = other.closing

variable {generator other : Generator}

theorem SameLines.body (same : generator.SameLines other) (items : List Item) (issued : Nat) :
    generator.body items issued = other.body items issued := by
  induction items generalizing issued with
  | nil => rfl
  | cons item rest ih => simp only [Generator.body, same.command, ih]

theorem SameLines.blocks (same : generator.SameLines other) (images : List Image) (issued : Nat) :
    generator.blocks images issued = other.blocks images issued := by
  induction images generalizing issued with
  | nil => rfl
  | cons image rest ih =>
    simp only [Generator.blocks, imageFunction, same.opening, same.body, same.closing, ih]

/-- Generators that write the same lines return the same files up to the preambles. -/
theorem SameLines.file {images : List Image} {issued left : Nat} {text : String}
    (same : generator.SameLines other) (returns : (generator.file images issued).Returns text left) :
    ∃ otherText, (other.file images issued).Returns otherText left ∧
      generator.SameBehindPreambles other text otherText := by
  obtain ⟨blocks, emitted, rfl⟩ := file_returns_iff.mp returns
  rw [same.blocks] at emitted
  exact ⟨_, file_returns_iff.mpr ⟨blocks, emitted, rfl⟩, _, String.append_assoc ..,
    String.append_assoc ..⟩

/-- Behind the preambles implementations depend on no setting but the prefix. -/
theorem implementation_sameLines {settings others : Settings}
    (same : settings.functionPrefix = others.functionPrefix) :
    (implementation settings).SameLines (implementation others) := by
  constructor
  · intro item issued
    cases item <;> rfl
  · intro imageName size
    simp only [opening, same]
  · rfl

private theorem header_sameLines (functionPrefix toolName otherName : String) :
    (header functionPrefix toolName).SameLines (header functionPrefix otherName) := by
  constructor
  · intro item issued
    rfl
  · intro imageName size
    rfl
  · rfl

end Generator

private theorem Settings.sources_pairs (settings : Settings) (images : List Image) :
    Run.Pairs (settings.headerGenerator.file images 0)
      (settings.implementationGenerator.file images 0) (settings.sources images) :=
  Run.pairs_andThen

/-- The sources of some settings, and those of other settings with the same prefix. -/
theorem Settings.sources_of_samePrefix {settings others : Settings} {images : List Image}
    {sources : Sources} (same : settings.functionPrefix = others.functionPrefix)
    (success : (settings.sources images).outcome = .ok sources) :
    ∃ otherSources, (others.sources images).outcome = .ok otherSources ∧
      settings.headerGenerator.SameBehindPreambles others.headerGenerator
        sources.header otherSources.header ∧
      settings.implementationGenerator.SameBehindPreambles others.implementationGenerator
        sources.implementation otherSources.implementation := by
  obtain ⟨_, _, declared, defined⟩ := Settings.sources_returns success
  have headers : settings.headerGenerator.SameLines others.headerGenerator := by
    rw [headerGenerator, headerGenerator, same]
    exact Generator.header_sameLines ..
  obtain ⟨header, otherDeclared, sameHeader⟩ := headers.file declared
  obtain ⟨implementation, otherDefined, sameImplementation⟩ :=
    (Generator.implementation_sameLines same).file defined
  exact ⟨⟨header, implementation⟩,
    ((others.sources_pairs images).succeeds otherDeclared.outcome otherDefined.outcome).1,
    sameHeader, sameImplementation⟩

/-- Settings given as a whole, one by one or by way of their generators lead to the same outcome and
the same log. Settings with the same prefix lead to texts that are the same behind the preambles,
and, if they have the same tool name as well, to the same header. -/
theorem settings_reach_their_places (settings : Settings) (images : List Image) :
    settings.sources images = Sources.generate images settings.functionPrefix settings.headerPath
        settings.toolName ∧
      Run.Pairs (settings.headerGenerator.file images 0)
        (settings.implementationGenerator.file images 0) (settings.sources images) ∧
      ∀ (others : Settings) (sources : Sources),
        settings.functionPrefix = others.functionPrefix →
        (settings.sources images).outcome = .ok sources →
          ∃ otherSources, (others.sources images).outcome = .ok otherSources ∧
            settings.headerGenerator.SameBehindPreambles others.headerGenerator
              sources.header otherSources.header ∧
            settings.implementationGenerator.SameBehindPreambles others.implementationGenerator
              sources.implementation otherSources.implementation ∧
            (settings.toolName = others.toolName → sources.header = otherSources.header) := by
  refine ⟨rfl, settings.sources_pairs images, ?_⟩
  intro others sources same success
  obtain ⟨otherSources, otherSuccess, sameHeader, sameImplementation⟩ :=
    Settings.sources_of_samePrefix same success
  refine ⟨otherSources, otherSuccess, sameHeader, sameImplementation, ?_⟩
  intro sameTool
  obtain ⟨rest, header, otherHeader⟩ := sameHeader
  rw [header, otherHeader, Settings.headerGenerator, Settings.headerGenerator, same, sameTool]

/-- An empty path is a path like any other: it shows in the implementation, but not in the
header. -/
theorem settings_reach_their_places_empty :
    ∃ sources otherSources : Sources,
      (Settings.sources ⟨"MY", some "", "tool"⟩ oddImages).outcome = .ok sources ∧
      (Settings.sources ⟨"MY", none, "tool"⟩ oddImages).outcome = .ok otherSources ∧
      sources.header = otherSources.header ∧
      ∃ rest, sources.implementation = "// Generated by tool\n\n#import \"\"\n\n" ++ rest ∧
        otherSources.implementation =
          "// Generated by tool\n\n#import <CoreGraphics/CoreGraphics.h>\n\n" ++ rest := by
  have success : (Settings.sources ⟨"MY", some "", "tool"⟩ oddImages).outcome = .ok _ := rfl
  obtain ⟨_, _, places⟩ := settings_reach_their_places ⟨"MY", some "", "tool"⟩ oddImages
  obtain ⟨otherSources, otherSuccess, _, ⟨rest, implementation, other⟩, header⟩ :=
    places ⟨"MY", none, "tool"⟩ _ rfl success
  exact ⟨_, otherSources, success, otherSuccess, header rfl, rest, implementation, other⟩

end DrawingCode
