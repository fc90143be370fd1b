import RepoAudit.CodeQL.Database
import RepoAudit.Proofs.Entries
import RepoAudit.Proofs.Step

/-!
The commands that the work on a CodeQL database runs. Whatever the machine answers and whether or
not its report can be printed, making a database runs at most one command, for the main language,
and analysing it runs at most one.
-/
namespace RepoAudit

open Step

variable {σ α : Type} {host : Host σ} {c d : Console σ}

/-- The console `d` is `c`, apart from what was reported. -/
def Reports (c d : Console σ) : Prop := ∃ lines, d = { c with lines := lines }

theorem Reports.refl (c : Console σ) : Reports c c := ⟨c.lines, rfl⟩

theorem Reports.trans {e : Console σ} (hFirst : Reports c d) (hSecond : Reports d e) :
    Reports c e := by
  obtain ⟨_, rfl⟩ := hFirst
  obtain ⟨lines, rfl⟩ := hSecond
  exact ⟨lines, rfl⟩

/-- Reports leave the commands as they are. -/
theorem Reports.commands (h : Reports c d) : d.commands = c.commands := by
  obtain ⟨_, rfl⟩ := h
  rfl

/-- Reports leave the machine as it is. -/
theorem Reports.machine (h : Reports c d) : d.machine = c.machine := by
  obtain ⟨_, rfl⟩ := h
  rfl

/-- A line is reported or it is a fault: nothing else changes. -/
theorem say_reports [Output] (line : Text) (c : Console σ) :
    Reports c ((Work.say line).perform c).2 := by
  rw [Work.say, perform_bind, perform_attempt]
  rcases line.printed with fault | line
  · exact .refl c
  · exact ⟨_, rfl⟩

/-- What follows a line of the report does so on a console that differs only in what was reported,
and so does a fault in its place. -/
theorem leads_say [Output] {line : Text} {next : Unit → Work σ α}
    {q : Except Fault α → Console σ → Prop} (hFault : ∀ fault d, Reports c d → q (.error fault) d)
    (hNext : ∀ d, Reports c d → (next ()).Leads d q) : (Work.say line >>= next).Leads c q := by
  have hReports := say_reports line c
  refine leads_bind ?_
  rw [Leads]
  rcases hOut : (Work.say line).perform c with ⟨fault | _, d⟩
  · rw [hOut] at hReports
    exact hFault fault d hReports
  · rw [hOut] at hReports
    exact hNext d hReports

/-- Running a command is remembered. -/
theorem leads_execute {command : List Text} {next : Outcome → Work σ α}
    {q : Except Fault α → Console σ → Prop}
    (h : (next (host.run command c.machine).1).Leads
      { c with
        machine := (host.run command c.machine).2
        commands := c.commands ++ [command] } q) :
    (Work.execute host command >>= next).Leads c q := h

/-- Copying a repository changes the machine and nothing else. -/
theorem leads_clone {repository path : Text} {next : Option Fault → Work σ α}
    {q : Except Fault α → Console σ → Prop}
    (h : (next (host.clone repository path c.machine).1).Leads
      { c with machine := (host.clone repository path c.machine).2 } q) :
    (Work.clone host repository path >>= next).Leads c q := h

namespace CodeQL

/-- A report on a fault never gives a path. -/
theorem report_reports [Output] (wording : Wording) (fault : Fault) (c : Console σ) :
    (wording.report fault).Leads c fun result d =>
      Reports c d ∧ ∀ found, result ≠ .ok (some found) :=
  leads_say (fun _ _ hLine => ⟨hLine, nofun⟩) fun _ hLine => ⟨hLine, nofun⟩

/-- A command is confirmed with its own path or not at all. -/
theorem confirm_reports [Output] (host : Host σ) (wording : Wording) (output path : Text)
    (c : Console σ) : (confirm host wording output path).Leads c fun result d =>
      Reports c d ∧ ∀ found, result = .ok (some found) → found = path := by
  refine leads_say (fun _ _ hLine => ⟨hLine, nofun⟩) fun d hFirst => ?_
  refine leads_get (leads_ite (fun _ => ?_) (fun _ => ?_))
  · refine leads_say (fun _ _ hLine => ⟨hFirst.trans hLine, nofun⟩) fun e hSecond => ?_
    exact ⟨hFirst.trans hSecond, fun found hFound => by cases hFound; rfl⟩
  · exact leads_say (fun _ _ hLine => ⟨hFirst.trans hLine, nofun⟩)
      fun e hSecond => ⟨hFirst.trans hSecond, nofun⟩

/-- A command is run once, however it ends, and no path is given but the one asked for. -/
theorem produce_commands [Output] (host : Host σ) (wording : Wording) (command : List Text)
    (path : Text) (c : Console σ) : (produce host wording command path).Leads c fun result d =>
      d.commands = c.commands ++ [command] ∧
        ∀ found, result = .ok (some found) → found = path := by
  refine leads_execute ?_
  split
  · next output _ =>
      refine leads_tryCatch ((confirm_reports host wording output path _).imp fun result d h => ?_)
      rcases result with fault | found
      · refine (report_reports wording fault d).imp fun _ e hReport => ?_
        exact ⟨hReport.1.commands.trans h.1.commands,
          fun found hFound => absurd hFound (hReport.2 found)⟩
      · exact ⟨h.1.commands, h.2⟩
  · refine leads_say (fun _ d hLine => ⟨hLine.commands, nofun⟩) fun d hFirst => ?_
    exact leads_say (fun _ e hLine => ⟨(hFirst.trans hLine).commands, nofun⟩)
      fun e hSecond => ⟨(hFirst.trans hSecond).commands, nofun⟩
  · next fault _ =>
      refine (report_reports wording fault _).imp fun _ e hReport => ?_
      exact ⟨hReport.1.commands, fun found hFound => absurd hFound (hReport.2 found)⟩

/-- What the making of a database did: it ran no command and gave no path, or it ran the command for
the main language. -/
inductive Built (project : Text) (counts : List (Text × Json)) (c : Console σ) :
    Except Fault (Option Text) → Console σ → Prop
  | nothing {result : Except Fault (Option Text)} {d : Console σ}
    (hCommands : d.commands = c.commands) (hNone : ∀ found, result ≠ .ok (some found)) :
    Built project counts c result d
  | command {result : Except Fault (Option Text)} {d : Console σ} (language : Text)
    (hMain : mainLanguage counts = .ok (some language))
    (hCommands : d.commands = c.commands ++ [createCommand project language])
    (hFound : ∀ found, result = .ok (some found) → found = databasePath project) :
    Built project counts c result d

/-- What the making of a database runs and gives, for every host. -/
theorem buildDatabase_built [Output] (host : Host σ) (project : Text) (counts : List (Text × Json))
    (c : Console σ) : (buildDatabase host project counts).Leads c (Built project counts c) := by
  refine leads_say (fun _ d hLine => .nothing hLine.commands nofun) fun d hFirst => ?_
  refine leads_attempt (fun main hMain => ?_) (fun _ _ => .nothing hFirst.commands nofun)
  rcases main with _ | language
  · exact leads_say (fun _ e hLine => .nothing (hFirst.trans hLine).commands nofun)
      fun e hSecond => .nothing (hFirst.trans hSecond).commands nofun
  · refine leads_say (fun _ e hLine => .nothing (hFirst.trans hLine).commands nofun)
      fun e hSecond => ?_
    refine leads_say (fun _ f hLine => .nothing ((hFirst.trans hSecond).trans hLine).commands nofun)
      fun f hThird => ?_
    refine (produce_commands host creation _ _ f).imp fun result g h => ?_
    refine .command language hMain ?_ h.2
    rw [h.1, ((hFirst.trans hSecond).trans hThird).commands]

/-- The analysis of a database runs its command or none, and gives no path but that of its
results. -/
theorem analyzeDatabase_analysed [Output] (host : Host σ) (database language : Text)
    (c : Console σ) :
    (analyzeDatabase host database language).Leads c fun result d =>
      (d.commands = c.commands ∨ d.commands = c.commands ++ [analyzeCommand database language]) ∧
        ∀ found, result = .ok (some found) → found = resultsPath database := by
  refine leads_say (fun _ d hLine => ⟨.inl hLine.commands, nofun⟩) fun d hFirst => ?_
  refine leads_say (fun _ e hLine => ⟨.inl (hFirst.trans hLine).commands, nofun⟩)
    fun e hSecond => ?_
  refine (produce_commands host analysis _ _ e).imp fun _ f h => ⟨.inr ?_, h.2⟩
  rw [h.1, (hFirst.trans hSecond).commands]

/-- An analysis runs its own command, at most once. -/
theorem analyzeDatabase_commands [Output] (host : Host σ) (database language : Text)
    (c : Console σ) :
    (analyzeDatabase host database language).Leads c fun _ d => d.commands = c.commands ∨
      d.commands = c.commands ++ [analyzeCommand database language] :=
  (analyzeDatabase_analysed host database language c).imp fun _ _ h => h.1

section MainLanguage

/-- Only the languages of known extensions are counted. -/
theorem addCount_languages {counts counts' : List (Text × Json)} {entry : Text × Json}
    (h : addCount counts entry = .ok counts')
    (hCounts : ∀ p ∈ counts, p.1 ∈ extensions.map Prod.snd) :
    ∀ p ∈ counts', p.1 ∈ extensions.map Prod.snd := by
  unfold addCount at h
  split at h
  · cases h
    exact hCounts
  · next language hLanguage =>
      obtain ⟨total, -, hSet⟩ := bind_eq_ok_iff.1 h
      cases hSet
      refine isKey_setEntry ?_ hCounts
      obtain ⟨extension, hMember, -⟩ := exists_of_lookup hLanguage
      exact List.mem_map.2 ⟨_, hMember, rfl⟩

/-- Counts by language name languages of the table only. -/
theorem foldlM_addCount_languages {entries counts counts' : List (Text × Json)}
    (h : entries.foldlM addCount counts = .ok counts')
    (hCounts : ∀ p ∈ counts, p.1 ∈ extensions.map Prod.snd) :
    ∀ p ∈ counts', p.1 ∈ extensions.map Prod.snd := by
  induction entries generalizing counts with
  | nil =>
      cases h
      exact hCounts
  | cons entry entries ih =>
      rw [List.foldlM_cons, bind_eq_ok_iff] at h
      obtain ⟨next, hFirst, hRest⟩ := h
      exact ih hRest (addCount_languages hFirst hCounts)

/-- The entry with the largest count is one of the entries. -/
theorem largest_mem {best found : Text × Json} {entries : List (Text × Json)}
    (h : largest best entries = .ok found) : found ∈ best :: entries := by
  induction entries generalizing best with
  | nil =>
      cases h
      exact List.mem_cons_self
  | cons entry entries ih =>
      rw [largest, bind_eq_ok_iff] at h
      obtain ⟨larger, -, hRest⟩ := h
      cases larger with
      | true => exact List.mem_cons_of_mem _ (ih hRest)
      | false =>
          rcases List.mem_cons.1 (ih hRest) with rfl | hLater
          · exact List.mem_cons_self
          · exact List.mem_cons_of_mem _ (List.mem_cons_of_mem _ hLater)

/-- The main language of a project is the language of an extension. -/
theorem mainLanguage_mem {counts : List (Text × Json)} {language : Text}
    (h : mainLanguage counts = .ok (some language)) : language ∈ extensions.map Prod.snd := by
  obtain ⟨entries, hEntries, hLargest⟩ := bind_eq_ok_iff.1 h
  have hLanguages := foldlM_addCount_languages hEntries (List.forall_mem_nil _)
  rcases entries with _ | ⟨first, rest⟩
  · cases hLargest
  · obtain ⟨found, hFound, hName⟩ := bind_eq_ok_iff.1 hLargest
    cases hName
    exact hLanguages found (largest_mem hFound)

/-- Counts that are whole numbers. -/
def AreWhole (counts : List (Text × Json)) : Prop := ∀ entry ∈ counts, ∃ n, entry.2 = .int n

/-- Whole numbers can be added up, and the sums are whole. -/
theorem addCount_of_whole {counts : List (Text × Json)} {entry : Text × Json} {n : Int}
    (hEntry : entry.2 = .int n) (hCounts : AreWhole counts) :
    ∃ more, addCount counts entry = .ok more ∧ AreWhole more := by
  unfold addCount
  split
  · exact ⟨counts, rfl, hCounts⟩
  · next language _ =>
      have hBefore : ∃ m, (counts.lookup language).getD (.int 0) = .int m := by
        cases hLookup : counts.lookup language with
        | none => exact ⟨0, rfl⟩
        | some value =>
            obtain ⟨key, hMember, -⟩ := exists_of_lookup hLookup
            exact hCounts _ hMember
      obtain ⟨m, hBefore⟩ := hBefore
      rw [hBefore, hEntry]
      refine ⟨_, rfl, ?_⟩
      intro other hOther
      rcases mem_setEntry hOther with hOld | ⟨hNew, -⟩
      · exact hCounts other hOld
      · exact ⟨_, hNew⟩

/-- Counts that are whole numbers are always summed up. -/
theorem foldlM_addCount_of_whole {entries counts : List (Text × Json)}
    (hEntries : AreWhole entries) (hCounts : AreWhole counts) :
    ∃ more, entries.foldlM addCount counts = .ok more ∧ AreWhole more := by
  induction entries generalizing counts with
  | nil => exact ⟨counts, rfl, hCounts⟩
  | cons entry entries ih =>
      obtain ⟨⟨n, hEntry⟩, hRest⟩ := List.forall_mem_cons.1 hEntries
      obtain ⟨next, hNext, hWhole⟩ := addCount_of_whole hEntry hCounts
      rw [List.foldlM_cons, hNext]
      exact ih hRest hWhole

/-- Among whole numbers there is always a largest. -/
theorem largest_of_whole {best : Text × Json} {entries : List (Text × Json)}
    (h : AreWhole (best :: entries)) : ∃ found, largest best entries = .ok found := by
  induction entries generalizing best with
  | nil => exact ⟨best, rfl⟩
  | cons entry entries ih =>
      obtain ⟨⟨m, hBest⟩, hOthers⟩ := List.forall_mem_cons.1 h
      obtain ⟨⟨n, hEntry⟩, hRest⟩ := List.forall_mem_cons.1 hOthers
      have hExceeds : entry.2.exceeds best.2 = .ok (Json.exceedsDyadic (n, 0) (m, 0)) := by
        rw [hBest, hEntry]
        rfl
      rw [largest, hExceeds]
      cases Json.exceedsDyadic (n, 0) (m, 0) with
      | true => exact ih hOthers
      | false => exact ih (List.forall_mem_cons.2 ⟨⟨m, hBest⟩, hRest⟩)

/-- Whole counts have a main language, or none that is known. -/
theorem mainLanguage_of_whole {counts : List (Text × Json)} (h : AreWhole counts) :
    ∃ main, mainLanguage counts = .ok main := by
  obtain ⟨totals, hTotals, hWhole⟩ := foldlM_addCount_of_whole h (List.forall_mem_nil _)
  rw [mainLanguage, hTotals]
  cases totals with
  | nil => exact ⟨none, rfl⟩
  | cons first rest =>
      obtain ⟨found, hFound⟩ := largest_of_whole hWhole
      refine ⟨some found.1, ?_⟩
      change (do return some (← largest first rest).1) = _
      rw [hFound]
      rfl

end MainLanguage

end CodeQL

end RepoAudit
