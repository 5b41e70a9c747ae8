import Cleave.Profile.Basic

/-!
# Built-in profiles

Two profiles are always there: `router` moves every router into a file of its own, and `repository` gathers
data-access functions in one class per domain.
-/

namespace Cleave

namespace SymbolSettings

/-- A symbol that is imported by name and whose name means use. -/
def named (name module : String) : SymbolSettings := { name, module }

/-- A whole module that is imported under a name. -/
def whole (name module : String) : SymbolSettings := { name, module, wholeModule := true }

/-- A symbol that is imported by name if the marker occurs. -/
def marked (name module marker : String) : SymbolSettings := { name, module, marker := some marker }

end SymbolSettings

open SymbolSettings

namespace Profile

/-- The symbols that a router may use. -/
def routerSymbols : List SymbolSettings :=
  [named "validateTaskCreateInput" "@shared/validationUtils",
   named "validateTaskUpdateInput" "@shared/validationUtils",
   named "validateInspectionSubmission" "@shared/validationUtils",
   named "validateDefectCreateInput" "@shared/validationUtils",
   named "validateDefectUpdateInput" "@shared/validationUtils",
   named "canEditDefect" "@shared/permissions",
   named "canDeleteDefect" "@shared/permissions",
   named "boolToInt" "../utils/typeHelpers.js",
   marked "getTaskDisplayStatus" "../taskStatusHelper" "getTaskDisplayStatus(",
   named "getTaskDisplayStatusLabel" "../taskStatusHelper",
   named "getTaskDisplayStatusColor" "../taskStatusHelper",
   named "storagePut" "../storage",
   named "notifyOwner" "../_core/notification",
   named "emitNotification" "../_core/socket",
   named "createNotification" "../notificationService",
   whole "analyticsService" "../services/analytics.service",
   named "generateProjectExport" "../downloadProject",
   named "generateProjectReport" "../downloadProject",
   named "generateArchiveExcel" "../excelExport",
   named "checkArchiveWarnings" "../archiveNotifications",
   named "logger" "../logger",
   named "projectSchema" "@shared/validations",
   named "taskSchema" "@shared/validations",
   named "defectSchema" "@shared/validations",
   named "inspectionSchema" "@shared/validations"]

/-- One file per router. -/
def router : Profile where
  description := some "Split tRPC routers into one file per router"
  extension := "ts"
  scan := {
    introducer := "^const (\\w+Router) = router\\(\\\x7b"
    aggregator := some "^export const (appRouter) = router\\(\\\x7b"
    closingMarker := "\x7d);" }
  classify := { grouping := .declaration }
  imports := {
    base :=
      [named "z" "zod",
       named "TRPCError" "@trpc/server",
       named "protectedProcedure" "../_core/trpc",
       named "publicProcedure" "../_core/trpc",
       named "router" "../_core/trpc",
       named "roleBasedProcedure" "../_core/trpc",
       whole "db" "../db"]
    symbols := routerSymbols }
  render := {
    header := some "/**\n * \x7bDomain\x7d\n * Auto-generated from \x7bsource\x7d\n */"
    exportMark := some "export "
    rootBanner := some "// Import feature-based routers" }
  check := some {
    command := ["npx", "tsc", "--noEmit"]
    diagnosticPattern := some "error TS\\d+" }

/-- The rules of the data-access domains. -/
def repositoryRules : List RuleSettings :=
  [⟨"task", "(Task|Dependency|Assignee|Follower)"⟩,
   ⟨"defect", "(Defect|CAR|PAR|NCR)"⟩,
   ⟨"inspection", "(Inspection|Checklist|ChecklistItem|ChecklistResult|Signature|Reinspection)"⟩,
   ⟨"notification", "(Notification|PushSubscription|ScheduledNotification|NotificationSettings)"⟩,
   ⟨"comment", "(Comment)"⟩,
   ⟨"attachment", "(Attachment)"⟩,
   ⟨"activity", "(Activity|ActivityLog)"⟩,
   ⟨"analytics", "(Analytics|Stats|Metrics|KPI|Performance|Quality|Risk|Trend|Dashboard)"⟩,
   ⟨"archive", "(Archive)"⟩,
   ⟨"template", "(Template)"⟩,
   ⟨"escalation", "(Escalation)"⟩,
   ⟨"role", "(Role|Permission)"⟩]

/-- The data-access functions that stay in the root. -/
def repositoryRetained : List String :=
  ["upsertUser", "getUserByOpenId", "getUserById", "getAllUsers", "updateUserRole", "updateUserProfile",
   "updateUserNotificationSettings", "generateProjectCode", "createProject", "getProjectById",
   "getAllProjects", "getProjectsPaginated", "getProjectsByUser", "validateProjectCompleteness",
   "openProject", "getProjectStats", "getBatchProjectStats", "updateProject", "deleteProject",
   "archiveProject", "unarchiveProject", "getArchivedProjects", "addProjectMember", "getProjectMembers",
   "removeProjectMember", "updateProjectMemberRole", "getUserProjects", "bulkCreateUsers", "getDb",
   "closeDbConnection"]

/-- The symbols that data-access functions may use. -/
def repositorySymbols : List SymbolSettings :=
  [named "inArray" "drizzle-orm",
   marked "like" "drizzle-orm" "like(",
   marked "or" "drizzle-orm" "or(",
   marked "gt" "drizzle-orm" "gt(",
   marked "gte" "drizzle-orm" "gte(",
   marked "lt" "drizzle-orm" "lt(",
   marked "lte" "drizzle-orm" "lte(",
   named "bigIntToNumber" "../utils/bigint",
   named "boolToInt" "../utils/typeHelpers"]

/-- One repository class per domain. -/
def repository : Profile where
  description := some "Move data-access functions into per-domain repository classes"
  extension := "repository.ts"
  scan := { introducer := "^export async function (\\w+)" }
  classify := { rules := repositoryRules, retain := repositoryRetained, extractMisc := false }
  imports := {
    base :=
      (["eq", "and", "desc", "asc", "count", "isNull", "sql"].map fun name => named name "drizzle-orm") ++
        [named "BaseRepository" "./base.repository"]
    symbols := repositorySymbols
    entityPatterns := ["from\\((\\w+)\\)", "Join\\((\\w+),"]
    entityModule := some "../../drizzle/schema" }
  render := {
    header := some "/**\n * \x7bHandle\x7d\n * Auto-generated from \x7bsource\x7d\n */"
    substitution := some { pattern := "\\bdb\\.", replacement := "this.db." }
    wrap := some {
      opening := "export class \x7bHandle\x7d extends BaseRepository \x7b"
      closing := "\x7d"
      memberFrom := some "export async function "
      memberTo := "async " }
    handle := some "\x7bDomain\x7dRepository"
    rootImport := some "export \x7b \x7bnames\x7d \x7d from \"\x7bmodule\x7d\";" }

/-- The profile that is used if neither the user nor the project names one. -/
def defaultName : String := "repository"

/-- The built-in profiles by name. -/
def builtins : Dictionary Profile :=
  .ofList [("repository", repository), ("router", router)]

end Profile

end Cleave
