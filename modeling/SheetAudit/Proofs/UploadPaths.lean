import Mathlib.Tactic
import SheetAudit.Proofs.PlainTexts
import SheetAudit.Service.Http
import SheetAudit.Sheet.Folder

/-!
# Where the paths of uploads lead

The parts of a path are followed one by one: two dots lead up, a name leads down, and a part that is
empty or one dot leads nowhere.  What is left of a path when all of this is done is a route, some
places up and then down through names.  An upload leads into the upload directory as long as its
route does not leave the directory, or leaves it and comes back through the same names.
-/

namespace SheetAudit.Service

open Text

/-! ## Places and routes -/

/-- The place that a part of a path leads to, given by the names on the way from the root. -/
def followPart (place : List String) (part : String) : List String :=
  if part = "" ∨ part = "." then place
  else if part = ".." then place.dropLast
  else place ++ [part]

/-- The place that an absolute path leads to. -/
def placeOf (path : String) : List String := (Folder.parts path).foldl followPart []

/-- A path leads to a directory itself or to a place below it. -/
def LeadsInto (directory path : String) : Prop := placeOf directory <+: placeOf path

/-- Some places up, and from there down through names. -/
structure Route where
  ups : Nat
  names : List String
  deriving DecidableEq

namespace Route

/-- A route with one more part of a path. -/
def withPart (route : Route) (part : String) : Route :=
  if part = "" ∨ part = "." then route
  else if part = ".." then
    if route.names = [] then ⟨route.ups + 1, []⟩ else ⟨route.ups, route.names.dropLast⟩
  else ⟨route.ups, route.names ++ [part]⟩

/-- The route of a path. -/
def ofPath (path : String) : Route := (Folder.parts path).foldl withPart ⟨0, []⟩

/-- The place that a route leads to from another one; nothing lies above the root. -/
def placeFrom (route : Route) (place : List String) : List String :=
  place.take (place.length - route.ups) ++ route.names

variable {route : Route} {place : List String}

theorem placeFrom_withPart (route : Route) (place : List String) (part : String) :
    (route.withPart part).placeFrom place = followPart (route.placeFrom place) part := by
  unfold withPart followPart
  by_cases hstay : part = "" ∨ part = "."
  · rw [if_pos hstay, if_pos hstay]
  · rw [if_neg hstay, if_neg hstay]
    by_cases hup : part = ".."
    · rw [if_pos hup, if_pos hup]
      by_cases hnames : route.names = []
      · rw [if_pos hnames]
        simp only [placeFrom, hnames, List.append_nil, List.dropLast_eq_take, List.length_take,
          List.take_take]
        congr 1
        omega
      · rw [if_neg hnames, placeFrom, placeFrom, List.dropLast_append_of_ne_nil hnames]
    · rw [if_neg hup, if_neg hup, placeFrom, placeFrom, List.append_assoc]

/-- Following the parts of a path is taking its route. -/
theorem foldl_followPart (route : Route) (place : List String) (parts : List String) :
    parts.foldl followPart (route.placeFrom place) =
      (parts.foldl withPart route).placeFrom place := by
  induction parts generalizing route with
  | nil => rfl
  | cons part parts ih => rw [List.foldl_cons, List.foldl_cons, ← placeFrom_withPart, ih]

theorem foldl_followPart_parts (place : List String) (path : String) :
    (Folder.parts path).foldl followPart place = (ofPath path).placeFrom place := by
  have hstart : (⟨0, []⟩ : Route).placeFrom place = place := by simp [placeFrom]
  have hparts := foldl_followPart ⟨0, []⟩ place (Folder.parts path)
  rwa [hstart] at hparts

/-- A route leads back into a place exactly if the names that it leaves come first on its way
down. -/
theorem isPrefix_placeFrom_iff :
    place <+: route.placeFrom place ↔ place.drop (place.length - route.ups) <+: route.names := by
  let kept := place.length - route.ups
  have hcut : place.take kept ++ place.drop kept <+: place.take kept ++ route.names ↔
      place.drop kept <+: route.names := List.prefix_append_right_inj _
  rwa [List.take_append_drop] at hcut

end Route

/-! ## Paths put together -/

theorem parts_append (above below : String) :
    Folder.parts (above ++ "/" ++ below) = Folder.parts above ++ Folder.parts below := by
  have hslash : "/".toList = ['/'] := rfl
  simp only [Folder.parts, String.toList_append, hslash, List.append_assoc, List.singleton_append]
  rw [partsBetween_append, List.map_append]

/-- A path below a directory is followed from the directory on. -/
theorem placeOf_append (directory path : String) :
    placeOf (directory ++ "/" ++ path) =
      (Route.ofPath path).placeFrom (placeOf directory) := by
  rw [placeOf, parts_append, List.foldl_append, Route.foldl_followPart_parts]
  rfl

theorem placeOf_slash (directory : String) : placeOf (directory ++ "/") = placeOf directory := by
  have hnone : Route.ofPath "" = ⟨0, []⟩ := by decide
  have hplace := placeOf_append directory ""
  rw [String.append_empty, hnone] at hplace
  rw [hplace]
  simp [Route.placeFrom]

theorem placeOf_absolute (path : String) : placeOf path = (Route.ofPath path).names := by
  rw [placeOf, Route.foldl_followPart_parts]
  simp [Route.placeFrom]

theorem resolveUpload_of_mark (directory rest : String) :
    resolveUpload directory (uploadMark ++ rest) = joinPath directory rest := by
  have hmark : (uploadMark ++ rest).startsWith uploadMark = true := by
    rw [String.startsWith_string_iff, String.toList_append]
    exact List.prefix_append _ _
  have hrest : (uploadMark ++ rest).toList.drop uploadMark.length = rest.toList := by
    rw [String.toList_append, String.length, List.drop_left]
  rw [resolveUpload, if_pos hmark, hrest, String.ofList_toList]

/-- A relative path is joined to a directory so that it is followed from there on. -/
theorem placeOf_joinPath {directory path : String} (habsolute : directory.startsWith "/" = true)
    (hrelative : path.startsWith "/" = false) :
    placeOf (joinPath directory path) = (Route.ofPath path).placeFrom (placeOf directory) := by
  have hsome : directory.isEmpty = false := by
    rw [String.startsWith_string_iff] at habsolute
    obtain ⟨others, hothers⟩ := habsolute
    by_contra hnone
    have hempty : directory = "" := by simpa using hnone
    rw [hempty] at hothers
    simp at hothers
  rw [joinPath, hrelative, hsome]
  by_cases hslash : directory.endsWith "/" = true
  · have hends := hslash
    rw [String.endsWith_eq_endsWith_toSlice, String.Slice.endsWith_string_iff,
      String.copy_toSlice] at hends
    obtain ⟨before, hbefore⟩ := hends
    obtain rfl : directory = String.ofList before ++ "/" := by
      apply String.toList_injective
      rw [String.toList_append, String.toList_ofList, hbefore]
    simp [hslash, placeOf_append, placeOf_slash]
  · simp [hslash, placeOf_append]

/-! ## Main statement -/

/-- The names of a directory that the rest of an upload leaves: all of them if the rest starts at
the root, and otherwise as many as its route goes up. -/
def namesLeft (directory rest : String) : List String :=
  if rest.startsWith "/" then placeOf directory
  else (placeOf directory).drop ((placeOf directory).length - (Route.ofPath rest).ups)

theorem leadsInto_upload_iff {directory : String} (habsolute : directory.startsWith "/" = true)
    (rest : String) :
    LeadsInto directory (resolveUpload directory (uploadMark ++ rest)) ↔
      namesLeft directory rest <+: (Route.ofPath rest).names := by
  rw [LeadsInto, resolveUpload_of_mark, namesLeft]
  by_cases hroot : rest.startsWith "/" = true
  · rw [if_pos hroot, joinPath, if_pos hroot, placeOf_absolute rest]
  · rw [if_neg hroot, placeOf_joinPath habsolute (Bool.eq_false_iff.mpr hroot)]
    exact Route.isPrefix_placeFrom_iff

/-- A rest that starts at the root or goes up leaves a directory of one name. -/
theorem namesLeft_of_single {directory name rest : String} (hplace : placeOf directory = [name])
    (hleaves : rest.startsWith "/" = true ∨ (Route.ofPath rest).ups ≠ 0) :
    namesLeft directory rest = [name] := by
  rw [namesLeft, hplace]
  rcases hleaves with hroot | hups
  · rw [if_pos hroot]
  · have hnone : 1 - (Route.ofPath rest).ups = 0 := by omega
    rw [List.length_singleton, hnone, List.drop_zero, ite_self]

/-- An upload leads into an absolute directory exactly if the names of the directory that it leaves
come first on its way down.  So it leads into every directory exactly if its rest is relative and
its parts never lead above where they start. -/
theorem upload_leads_into_iff (rest : String) :
    (∀ directory : String, directory.startsWith "/" = true →
      (LeadsInto directory (resolveUpload directory (uploadMark ++ rest)) ↔
        namesLeft directory rest <+: (Route.ofPath rest).names)) ∧
    ((∀ directory : String, directory.startsWith "/" = true →
        LeadsInto directory (resolveUpload directory (uploadMark ++ rest))) ↔
      rest.startsWith "/" = false ∧ (Route.ofPath rest).ups = 0) := by
  refine ⟨fun directory habsolute => leadsInto_upload_iff habsolute rest, ?_, ?_⟩
  · intro hall
    by_contra hstays
    have hleaves : rest.startsWith "/" = true ∨ (Route.ofPath rest).ups ≠ 0 := by
      by_cases hroot : rest.startsWith "/" = true
      · exact Or.inl hroot
      · exact Or.inr fun hups => hstays ⟨Bool.eq_false_iff.mpr hroot, hups⟩
    -- the way down cannot start with the names of two different directories
    have hroot : "/a".startsWith "/" = true := by decide +kernel
    have hroot' : "/b".startsWith "/" = true := by decide +kernel
    have hfirst := (leadsInto_upload_iff hroot rest).mp (hall "/a" hroot)
    have hother := (leadsInto_upload_iff hroot' rest).mp (hall "/b" hroot')
    rw [namesLeft_of_single (show placeOf "/a" = ["a"] by decide +kernel) hleaves] at hfirst
    rw [namesLeft_of_single (show placeOf "/b" = ["b"] by decide +kernel) hleaves] at hother
    obtain ⟨others, hnames⟩ := hfirst
    obtain ⟨more, hnames'⟩ := hother
    rw [← hnames] at hnames'
    simp at hnames'
  · rintro ⟨hrelative, hups⟩ directory habsolute
    rw [leadsInto_upload_iff habsolute, namesLeft, hrelative, hups]
    simp

theorem upload_leads_into_two_uploads :
    ("/srv/uploads".startsWith "/" = true ∧
      LeadsInto "/srv/uploads"
        (resolveUpload "/srv/uploads" (uploadMark ++ "2024/./a//b/../c.csv"))) ∧
    (LeadsInto "/srv/uploads"
      (resolveUpload "/srv/uploads" (uploadMark ++ "../uploads/a.csv"))) := by
  have habsolute : "/srv/uploads".startsWith "/" = true := by decide +kernel
  refine ⟨⟨habsolute, ?_⟩, ?_⟩
  · exact (upload_leads_into_iff "2024/./a//b/../c.csv").2.mpr
      ⟨by decide +kernel, by decide +kernel⟩ "/srv/uploads" habsolute
  · rw [(upload_leads_into_iff "../uploads/a.csv").1 "/srv/uploads" habsolute]
    decide +kernel

/-- Two dots lead out of the directory, and a second slash leads to the root. -/
theorem upload_leads_out_of_directory :
    "/srv/uploads".startsWith "/" = true ∧
      resolveUpload "/srv/uploads" "uploads/../secret.csv" = "/srv/uploads/../secret.csv" ∧
      ¬ LeadsInto "/srv/uploads" (resolveUpload "/srv/uploads" "uploads/../secret.csv") ∧
      resolveUpload "/srv/uploads" "uploads//etc/passwd" = "/etc/passwd" ∧
      ¬ LeadsInto "/srv/uploads" (resolveUpload "/srv/uploads" "uploads//etc/passwd") := by
  unfold LeadsInto
  decide +kernel

end SheetAudit.Service
