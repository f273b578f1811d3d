import ProviderForge.Definition.Entity

namespace ProviderForge.BuiltIn

def requiresReplace : String :=
  "planmodifiers::string::requires_replace()"

def useStateForUnknown : String :=
  "planmodifiers::string::use_state_for_unknown()"

def projectTeams : Attribute :=
  .setNested "teams" "The teams of this project." "Team"
    [(Attribute.string "internal_id" "The internal ID of this team.").source ["id"],
      .string "name" "The name of this team.",
      .string "slug" "The slug of this team."]

def organization : DataSource where
  name := "organization"
  description := "Retrieves an organization."
  api :=
    { model := "Organization"
      readMethod := "GetOrganization"
      readArguments := ["slug"] }
  modelFillers := true
  attributes :=
    [(Attribute.string "slug" "The unique URL slug for the organization.").required,
      (Attribute.string "internal_id" "The internal ID for this organization.").source ["id"],
      .string "name" "The human readable name for this organization.",
      ((Attribute.string "id" "The unique URL slug for this organization.").deprecated
        "Use `slug` instead.").source ["slug"]]

def project : DataSource where
  name := "project"
  description := "Retrieves a project."
  api :=
    { model := "Project"
      readMethod := "GetOrganizationProject"
      readArguments := ["organization", "slug"] }
  modelFillers := true
  attributes :=
    [(Attribute.string "organization" "The organization slug.").required.source
        ["organization", "slug"],
      (Attribute.string "slug" "The unique URL slug for the project.").required,
      (Attribute.string "internal_id" "The internal ID of this project.").source ["id"],
      .string "name" "The name of this project.",
      (Attribute.string "platform" "The platform of this project.").nullable,
      .string "color" "The color of this project.",
      .bool "is_public" "Whether this project is public.",
      (Attribute.string "date_created" "The date this project was created.").sourceForm .time,
      .set "features" "The features of this project.",
      projectTeams,
      ((Attribute.string "id" "The unique URL slug for this project.").deprecated
        "Use `slug` instead.").source ["slug"]]

def allProjects : DataSource where
  name := "all_projects"
  description := "List of projects in an organization."
  api :=
    { model := "Project"
      readMethod := "ListOrganizationProjects"
      readArguments := ["organization"]
      strategy := .paginate {} }
  modelFillers := true
  attributes :=
    [(Attribute.string "organization"
        "The organization slug or internal ID to list projects for.").required.skipFill,
      (Attribute.setNested "projects" "The projects in this organization." "Project"
        [.string "slug" "The unique URL slug for the project.",
          (Attribute.string "internal_id" "The internal ID of this project.").source ["id"],
          .string "name" "The name of this project.",
          (Attribute.string "platform" "The platform of this project.").nullable,
          (Attribute.string "date_created" "The date this project was created.").sourceForm
            .time,
          .set "features" "The features of this project.",
          projectTeams]).source []]

def team : Resource where
  name := "team"
  description := "Sentry Team resource."
  api :=
    { model := some "Team"
      create := ⟨"CreateOrganizationTeam", ["organization"]⟩
      read := ⟨"GetOrganizationTeam", ["organization", "slug"]⟩
      update := some ⟨"UpdateOrganizationTeam", ["organization", "slug"]⟩
      delete := some ⟨"DeleteOrganizationTeam", ["organization", "slug"]⟩ }
  importAttributes := ["organization", "slug"]
  attributes :=
    [((Attribute.string "organization" "The organization of this resource.").required.planModifier
        requiresReplace).skipFill,
      (Attribute.string "name" "The name of this team.").required,
      ((Attribute.string "slug" "The unique URL slug for this team.").computedOptional.validator
        "validators::string::length_at_least(1)").planModifier useStateForUnknown,
      ((Attribute.string "internal_id" "The internal ID for this team.").source
        ["id"]).planModifier useStateForUnknown,
      .bool "has_access" "Whether the requesting user has access to this team.",
      .bool "is_pending" "Whether the team membership is pending.",
      .bool "is_member" "Whether the requesting user is a member of this team."]

/-- A client key is read back by listing the keys of its project. -/
def clientKey : Resource where
  name := "key"
  description := "Return a client key bound to a project."
  api :=
    { model := some "ProjectKey"
      create := ⟨"CreateProjectClientKey", ["organization", "project"]⟩
      read := ⟨"ListProjectClientKeys", ["organization", "project"]⟩
      listRead := some {}
      update := some ⟨"UpdateProjectClientKey", ["organization", "project", "id"]⟩
      delete := some ⟨"DeleteProjectClientKey", ["organization", "project", "id"]⟩ }
  importAttributes := ["organization", "project", "id"]
  attributes :=
    [((Attribute.string "organization"
        "The organization the resource belongs to.").required.planModifier
          requiresReplace).skipFill,
      ((Attribute.string "project" "The project the resource belongs to.").required.planModifier
        requiresReplace).skipFill,
      (Attribute.string "id" "The ID of this resource.").planModifier useStateForUnknown,
      (Attribute.string "name" "The name of the client key.").required,
      .bool "is_active" "Flag indicating the key is active.",
      (Attribute.string "public" "The public key.").planModifier useStateForUnknown,
      (Attribute.string "secret" "The secret key.").sensitive.planModifier useStateForUnknown,
      (Attribute.string "dsn_public" "The DSN tells the SDK where to send the events to.").source
        ["dsn", "public"],
      (Attribute.int "rate_limit_window"
        "Length of time in seconds that will be considered when checking the rate limit.").optional.source
          ["rate_limit", "window"]]

/-- Ownership rules cannot be removed, only replaced. -/
def projectOwnership : Resource where
  name := "project_ownership"
  description := "Manages the ownership rules of a project."
  api :=
    { model := some "ProjectOwnership"
      create := ⟨"UpdateProjectOwnership", ["organization", "project"]⟩
      read := ⟨"GetProjectOwnership", ["organization", "project"]⟩
      update := some ⟨"UpdateProjectOwnership", ["organization", "project"]⟩ }
  importAttributes := ["organization", "project"]
  attributes :=
    [((Attribute.string "organization" "The organization of this resource.").required.planModifier
        requiresReplace).skipFill,
      ((Attribute.string "project" "The project of this resource.").required.planModifier
        requiresReplace).skipFill,
      (Attribute.string "raw" "Raw input for ownership configuration.").optional,
      (Attribute.bool "fallthrough"
        "Whether to fall through to all project members.").computedOptional,
      (Attribute.string "auto_assignment" "Auto-assignment mode for issues.").computedOptional,
      (Attribute.bool "codeowners_auto_sync"
        "Whether CODEOWNERS files are synced automatically.").computedOptional]

def definitions : Definitions where
  dataSources := [organization, project, allProjects]
  resources := [team, clientKey, projectOwnership]

end ProviderForge.BuiltIn
