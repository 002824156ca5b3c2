import JsonTap.Config.LogSetup
import JsonTap.Proofs.Text.Split
import Mathlib.Data.List.Basic

/-!
# Opening the log file

A fault of making directories names one of them, by the part of the path that leads to it
(`Disk.path_of_makeDirectoriesWithin`). A log file that cannot be opened is named from the root
instead, wherever the settings say it is (`Config.LoggingSettings.path_of_openFile`).
-/

namespace JsonTap

namespace Disk

variable {d d' : Disk} {path : Text} {f : DiskFault}

/-- What stands before the last slash of a path begins it. -/
theorem isPrefix_splitLast (path : Text) : (splitLast path).1 <+: path := by
  have hbefore : (path.reverse.dropWhile (· != ('/' : CodePoint))).reverse <+: path :=
    Text.trimEnd_isPrefix (· != ('/' : CodePoint)) path
  unfold splitLast
  dsimp only
  split
  · exact hbefore
  · exact (Text.trimEnd_isPrefix _ _).trans hbefore

/-- A single directory that cannot be made is named as it is asked for. -/
theorem path_of_makeDirectory (h : d.makeDirectory path = .error (f, d')) : f.path = path := by
  unfold makeDirectory at h
  split at h
  · cases h
    rfl
  · split at h
    · cases h
    · cases h
      rfl
    · cases h

/-- A directory that cannot be made is named by the part of the path that leads to it. -/
theorem path_of_makeDirectoriesWithin {fuel : Nat}
    (h : makeDirectoriesWithin fuel d path = .error (f, d')) : f.path <+: path := by
  induction fuel generalizing d d' path f with
  | zero => cases h
  | succ fuel ih =>
    have itself : ∀ {made : Disk}, made.makeDirectory path = .error (f, d') → f.path <+: path := by
      intro made h
      have hpath : f.path = path := path_of_makeDirectory h
      exact hpath ▸ List.prefix_rfl
    unfold makeDirectoriesWithin at h
    dsimp only at h
    -- the directory above, whether or not the path ends in a slash
    generalize hcut : (if (splitLast path).2.isEmpty then splitLast (splitLast path).1
      else ((splitLast path).1, (splitLast path).2)) = cut at h
    have habove : cut.1 <+: path := by
      rw [← hcut]
      split
      · exact (isPrefix_splitLast _).trans (isPrefix_splitLast path)
      · exact isPrefix_splitLast path
    have last : ∀ {made : Disk}, (if cut.2 = Text.ofString "." then .ok made
        else made.makeDirectory path) = .error (f, d') → f.path <+: path := by
      intro made h
      split at h
      · cases h
      · exact itself h
    split at h
    · cases hmade : makeDirectoriesWithin fuel d cut.1 with
      | ok made =>
        rw [hmade] at h
        exact last h
      | error failed =>
        rw [hmade] at h
        dsimp only at h
        -- that there is something above already does not end the making
        split at h
        · exact last h
        · cases h
          exact (ih hmade).trans habove
    · exact itself h

/-- A file that cannot be opened is named as it is asked for. -/
theorem path_of_append {octets : List Octet} (h : d.append path octets = .error f) :
    f.path = path := by
  unfold append at h
  split at h
  · cases h
    rfl
  · split at h
    · cases h
      rfl
    · cases h
    · cases h

end Disk

/-- A log file that cannot be opened is named from the root. Before that, a directory that cannot
be made is named by the part of the path that leads to it. -/
theorem Config.LoggingSettings.path_of_openFile {s : LoggingSettings} {d d' : Disk} {f : DiskFault}
    (h : s.openFile d = .error (f, d')) : f.path = d.absolute s.file ∨ f.path <+: s.file := by
  have opened : ∀ {made : Disk},
      (made.append (d.absolute s.file) []).mapError (·, made) = .error (f, d') →
        f.path = d.absolute s.file := by
    intro made h
    cases happend : made.append (d.absolute s.file) [] with
    | ok d => rw [happend] at h; cases h
    | error f =>
      rw [happend] at h
      cases h
      exact Disk.path_of_append happend
  unfold openFile at h
  split at h
  · cases h
  · dsimp only at h
    split at h
    · exact .inl (opened h)
    · cases hmade : d.makeDirectories (Disk.splitLast s.file).1 with
      | error failed =>
        rw [hmade] at h
        cases h
        have hnamed := Disk.path_of_makeDirectoriesWithin hmade
        exact .inr (hnamed.trans (Disk.isPrefix_splitLast s.file))
      | ok made =>
        rw [hmade] at h
        exact .inl (opened h)

/-- A directory stands at the place of the log file. -/
example : (⟨"INFO", .text, "./d"⟩ : Config.LoggingSettings).openFile
    (.ofEntries ["srv"] [("d", .directory)]) =
      .error (⟨.isDirectory, "/srv/d"⟩, .ofEntries ["srv"] [("d", .directory)]) := by
  decide +kernel

end JsonTap
