import PipelinesOperator.Application.Manifest
import PipelinesOperator.Cluster.Secret
import PipelinesOperator.Proofs.Text.Split
import PipelinesOperator.Reconcile.Basic

/-!
# Where requests go

The target of a request is a path of pieces between slashes, and perhaps a query behind it.  If no
piece has a character in it that ends a piece or the path, the server gets back the pieces that the
path was made of.

## Main definitions

* `IsSegment s`: a text that stands as one piece in a path

## Main results

* `splitOn_path`: a path is split into the pieces it was made of
* `Request.segments_of_eq_ok`: the pieces of the target of a request
-/

namespace PipelinesOperator

/-- A text without the characters that end a piece of a path, or the path. -/
def IsSegment (s : String) : Prop := ∀ c ∈ s.toList, c ≠ '/' ∧ c ≠ '?' ∧ c ≠ '#'

instance (s : String) : Decidable (IsSegment s) := List.decidableBAll _ s.toList

/-! ## Pieces -/

/-- A path is split into the pieces that it was made of. -/
theorem splitOn_path {pieces : List String} (hne : pieces ≠ [])
    (h : ∀ piece ∈ pieces, IsSegment piece) :
    Text.splitOn '/' (Text.join "/" pieces) = pieces :=
  Text.splitOn_join rfl hne fun piece hpiece hslash => (h piece hpiece '/' hslash).1 rfl

/-- A path ends neither itself nor the target. -/
theorem not_mem_join {pieces : List String} (h : ∀ piece ∈ pieces, IsSegment piece) :
    ∀ c ∈ (Text.join "/" pieces).toList, c ≠ '?' ∧ c ≠ '#' := by
  intro c hc
  rcases Text.mem_join hc with hslash | ⟨piece, hpiece, hc⟩
  · obtain rfl := List.mem_singleton.mp hslash
    decide
  · exact (h piece hpiece c hc).2

/-! ## Requests -/

/-- A request is made of its method, its target and its body. -/
theorem Request.of_eq_ok {method : Method} {target : String} {body : Option Body} {q : Request}
    (h : Request.of method target body = .ok q) :
    q.method = method ∧ Target.ofText? target.toList = some q.target ∧ q.body = body := by
  rw [Request.of] at h
  split at h
  · rename_i t ht
    cases h
    exact ⟨rfl, ht, rfl⟩
  · cases h

/-- The pieces of the path of a request are those that it was made of.  No piece has a mark in it
that ends a path, and the query, if there is one, starts with one. -/
theorem Request.segments_of_eq_ok {method : Method} {pieces : List String} {query : String}
    {body : Option Body} {request : Request} (hne : pieces ≠ [])
    (hpieces : ∀ piece ∈ pieces, IsSegment piece)
    (hquery : query.toList.head? = none ∨ query.toList.head? = some '?')
    (h : Request.of method (Text.join "/" pieces ++ query) body = .ok request) :
    request.method = method ∧ request.target.segments = pieces ∧ request.body = body := by
  have hpath := not_mem_join hpieces
  obtain ⟨hmethod, htarget, hbody⟩ := of_eq_ok h
  refine ⟨hmethod, ?_, hbody⟩
  rw [Target.ofText?, String.toList_append] at htarget
  split at htarget
  · rw [Target.segments, ← Option.some.inj htarget]
    have hkept : ((Text.join "/" pieces).toList ++ query.toList).takeWhile (· ≠ '#') =
        (Text.join "/" pieces).toList ++ query.toList.takeWhile (· ≠ '#') :=
      List.takeWhile_append_of_pos fun c hc => decide_eq_true (hpath c hc).2
    have hend : (query.toList.takeWhile (· ≠ '#')).takeWhile (· ≠ '?') = [] := by
      cases hq : query.toList with
      | nil => rfl
      | cons c cs =>
        rw [hq] at hquery
        rcases hquery with hnone | hsome
        · cases hnone
        · obtain rfl := Option.some.inj hsome
          rfl
    have htaken : (((Text.join "/" pieces).toList ++ query.toList).takeWhile
        (· ≠ '#')).takeWhile (· ≠ '?') = (Text.join "/" pieces).toList := by
      rw [hkept, List.takeWhile_append_of_pos fun c hc => decide_eq_true (hpath c hc).1, hend,
        List.append_nil]
    simp only [htaken, String.ofList_toList]
    exact splitOn_path hne hpieces
  · cases htarget

variable {space name : String}

theorem secretsTarget_eq_join (space : String) :
    Secret.target space = Text.join "/" ["", "api", "v1", "namespaces", space, "secrets"] := by
  have hstart : "/api/v1/namespaces/" =
      "" ++ ("/" ++ ("api" ++ ("/" ++ ("v1" ++ ("/" ++ ("namespaces" ++ "/")))))) := by simp
  have hend : "/secrets" = "/" ++ "secrets" := by simp
  calc Secret.target space
    _ = "" ++ ("/" ++ ("api" ++ ("/" ++ ("v1" ++ ("/" ++ ("namespaces" ++ "/")))))) ++ space ++
          "/secrets" := congrArg (· ++ space ++ "/secrets") hstart
    _ = "" ++ ("/" ++ ("api" ++ ("/" ++ ("v1" ++ ("/" ++ ("namespaces" ++ "/")))))) ++ space ++
          ("/" ++ "secrets") := congrArg (_ ++ space ++ ·) hend
    _ = Text.join "/" ["", "api", "v1", "namespaces", space, "secrets"] := by
      simp only [Text.join, String.append_assoc]

theorem secretTarget_eq_join (space name : String) : Secret.target space ++ "/" ++ name =
    Text.join "/" ["", "api", "v1", "namespaces", space, "secrets", name] := by
  rw [secretsTarget_eq_join]
  simp only [Text.join, String.append_assoc]

/-- The text of the target to which statuses are written. -/
theorem statusTarget_eq_join (space name : String) :
    "/apis/" ++ Manifest.apiVersion ++ "/namespaces/" ++ space ++ "/" ++ Manifest.plural ++ "/" ++
        name ++ "/status?&fieldManager=" ++ Names.fieldManager =
      Text.join "/" ["", "apis", Manifest.group, Manifest.version, "namespaces", space,
        Manifest.plural, name, "status"] ++ ("?&fieldManager=" ++ Names.fieldManager) := by
  have hstart : "/apis/" = "" ++ ("/" ++ ("apis" ++ "/")) := by simp
  have hmiddle : "/namespaces/" = "/" ++ ("namespaces" ++ "/") := by simp
  have hend : "/status?&fieldManager=" = "/" ++ ("status" ++ "?&fieldManager=") := by simp
  calc "/apis/" ++ Manifest.apiVersion ++ "/namespaces/" ++ space ++ "/" ++ Manifest.plural ++
        "/" ++ name ++ "/status?&fieldManager=" ++ Names.fieldManager
    _ = "" ++ ("/" ++ ("apis" ++ "/")) ++ (Manifest.group ++ "/" ++ Manifest.version) ++
          ("/" ++ ("namespaces" ++ "/")) ++ space ++ "/" ++ Manifest.plural ++ "/" ++ name ++
          ("/" ++ ("status" ++ "?&fieldManager=")) ++ Names.fieldManager := by
      rw [← hstart, ← hmiddle, ← hend, Manifest.apiVersion]
    _ = _ := by simp only [Text.join, String.append_assoc]

/-- Where a secret is asked for. -/
theorem Secret.segments_getRequest {request : Request} (hs : IsSegment space) (hn : IsSegment name)
    (h : Secret.getRequest space name = .ok request) : request.method = .get ∧
      request.target.segments = ["", "api", "v1", "namespaces", space, "secrets", name] := by
  rw [Secret.getRequest] at h
  split at h
  · cases h
  · rw [secretTarget_eq_join, ← String.append_empty (s := Text.join _ _)] at h
    have hpieces : ∀ piece ∈ ["", "api", "v1", "namespaces", space, "secrets", name],
        IsSegment piece := by
      simp only [List.forall_mem_cons, hs, hn, List.not_mem_nil, false_implies, implies_true,
        true_and, and_true]
      decide
    obtain ⟨hmethod, hsegments, -⟩ :=
      Request.segments_of_eq_ok (List.cons_ne_nil _ _) hpieces (.inl rfl) h
    exact ⟨hmethod, hsegments⟩

/-- Where a secret is made. -/
theorem Secret.segments_createRequest {s : Secret} {request : Request} (hs : IsSegment space)
    (h : Secret.createRequest space s = .ok request) : request.method = .post ∧
      request.target.segments = ["", "api", "v1", "namespaces", space, "secrets"] ∧
      request.body = some ⟨"application/json", Secret.shape.write s⟩ := by
  rw [Secret.createRequest, secretsTarget_eq_join] at h
  refine Request.segments_of_eq_ok (List.cons_ne_nil _ _) ?_ ?_ h
  · simp only [List.forall_mem_cons, hs, List.not_mem_nil, false_implies, implies_true, true_and,
      and_true]
    decide
  · decide

/-- Where a status is written. -/
theorem Manifest.segments_statusRequest {status : Status} {request : Request}
    (hs : IsSegment space) (hn : IsSegment name)
    (h : Manifest.statusRequest space name status = .ok request) : request.method = .patch ∧
      request.target.segments = ["", "apis", group, version, "namespaces", space, plural, name,
        "status"] ∧
      request.body = some ⟨"application/merge-patch+json",
        .obj [("status", (Status.shape .hub).write status)]⟩ := by
  rw [Manifest.statusRequest] at h
  split at h
  · cases h
  · rw [statusTarget_eq_join] at h
    refine Request.segments_of_eq_ok (List.cons_ne_nil _ _) ?_ ?_ h
    · simp only [List.forall_mem_cons, hs, hn, List.not_mem_nil, false_implies, implies_true,
        true_and, and_true]
      decide
    · decide

end PipelinesOperator
