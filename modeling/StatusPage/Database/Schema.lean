import StatusPage.Crypto.Sha384

/-!
The schema of the database, as the list of migrations that build it up. A migration is known by its
version and by the checksum of its script, so that a script that has been run must stay as it is to
the letter.
-/

set_option autoImplicit false

namespace StatusPage.Database

structure Migration where
  version : Int
  description : String
  script : String
  deriving DecidableEq, Repr

def Migration.checksum (migration : Migration) : Text.Bytes :=
  Crypto.sha384 (Text.utf8 migration.script)

def initialSchema : String := "-- Identity

CREATE TABLE users (
    id            UUID PRIMARY KEY DEFAULT gen_random_uuid(),
    email         TEXT NOT NULL UNIQUE,
    password_hash TEXT NOT NULL,
    first_name    TEXT,
    last_name     TEXT,
    -- No CHECK: unrecognised roles are tolerated and denied by the permission check.
    role          TEXT NOT NULL DEFAULT 'user',
    created_at    TIMESTAMPTZ NOT NULL DEFAULT NOW(),
    updated_at    TIMESTAMPTZ NOT NULL DEFAULT NOW()
);

CREATE TABLE refresh_tokens (
    id         UUID PRIMARY KEY DEFAULT gen_random_uuid(),
    user_id    UUID NOT NULL REFERENCES users (id) ON DELETE CASCADE,
    token_hash TEXT NOT NULL UNIQUE,
    expires_at TIMESTAMPTZ NOT NULL,
    created_at TIMESTAMPTZ NOT NULL DEFAULT NOW()
);

CREATE INDEX idx_refresh_tokens_user_id ON refresh_tokens (user_id);
CREATE INDEX idx_refresh_tokens_expires_at ON refresh_tokens (expires_at);

-- Events

CREATE TABLE event_templates (
    id             UUID PRIMARY KEY DEFAULT gen_random_uuid(),
    slug           TEXT NOT NULL UNIQUE,
    event_type     TEXT NOT NULL CHECK (event_type IN ('incident', 'maintenance')),
    title_template TEXT NOT NULL,
    body_template  TEXT NOT NULL,
    created_at     TIMESTAMPTZ NOT NULL DEFAULT NOW(),
    updated_at     TIMESTAMPTZ NOT NULL DEFAULT NOW()
);

CREATE TABLE events (
    id                 UUID PRIMARY KEY DEFAULT gen_random_uuid(),
    title              TEXT NOT NULL,
    event_type         TEXT NOT NULL CHECK (event_type IN ('incident', 'maintenance')),
    status             TEXT NOT NULL,
    severity           TEXT CHECK (severity IN ('minor', 'major', 'critical')),
    description        TEXT NOT NULL DEFAULT '',
    started_at         TIMESTAMPTZ,
    resolved_at        TIMESTAMPTZ,
    scheduled_start_at TIMESTAMPTZ,
    scheduled_end_at   TIMESTAMPTZ,
    notify_subscribers BOOLEAN NOT NULL DEFAULT FALSE,
    template_id        UUID REFERENCES event_templates (id) ON DELETE SET NULL,
    created_by         UUID NOT NULL REFERENCES users (id),
    created_at         TIMESTAMPTZ NOT NULL DEFAULT NOW(),
    updated_at         TIMESTAMPTZ NOT NULL DEFAULT NOW(),
    CONSTRAINT events_status_matches_type CHECK (
        (event_type = 'incident' AND status IN ('investigating', 'identified', 'monitoring', 'resolved'))
        OR (event_type = 'maintenance' AND status IN ('scheduled', 'in_progress', 'completed'))
    )
);

CREATE INDEX idx_events_created_at ON events (created_at DESC);
CREATE INDEX idx_events_type_status ON events (event_type, status);

CREATE TABLE event_updates (
    id                 UUID PRIMARY KEY DEFAULT gen_random_uuid(),
    event_id           UUID NOT NULL REFERENCES events (id) ON DELETE CASCADE,
    status             TEXT NOT NULL,
    message            TEXT NOT NULL,
    notify_subscribers BOOLEAN NOT NULL DEFAULT FALSE,
    created_by         UUID NOT NULL REFERENCES users (id),
    created_at         TIMESTAMPTZ NOT NULL DEFAULT NOW()
);

CREATE INDEX idx_event_updates_event_id ON event_updates (event_id, created_at DESC);

-- Service ids reference the external catalog and carry no foreign key.
CREATE TABLE event_services (
    event_id   UUID NOT NULL REFERENCES events (id) ON DELETE CASCADE,
    service_id UUID NOT NULL,
    PRIMARY KEY (event_id, service_id)
);

CREATE INDEX idx_event_services_service_id ON event_services (service_id);

-- Notifications

CREATE TABLE notification_channels (
    id           UUID PRIMARY KEY DEFAULT gen_random_uuid(),
    user_id      UUID NOT NULL REFERENCES users (id) ON DELETE CASCADE,
    channel_type TEXT NOT NULL CHECK (channel_type IN ('email', 'telegram')),
    target       TEXT NOT NULL,
    is_enabled   BOOLEAN NOT NULL DEFAULT TRUE,
    is_verified  BOOLEAN NOT NULL DEFAULT FALSE,
    created_at   TIMESTAMPTZ NOT NULL DEFAULT NOW(),
    updated_at   TIMESTAMPTZ NOT NULL DEFAULT NOW()
);

CREATE INDEX idx_notification_channels_user_id ON notification_channels (user_id);

CREATE TABLE subscriptions (
    id         UUID PRIMARY KEY DEFAULT gen_random_uuid(),
    user_id    UUID NOT NULL UNIQUE REFERENCES users (id) ON DELETE CASCADE,
    created_at TIMESTAMPTZ NOT NULL DEFAULT NOW()
);

-- A subscription with no rows here covers every service.
CREATE TABLE subscription_services (
    subscription_id UUID NOT NULL REFERENCES subscriptions (id) ON DELETE CASCADE,
    service_id      UUID NOT NULL,
    PRIMARY KEY (subscription_id, service_id)
);
"

def migrations : List Migration := [⟨20240101000000, "initial schema", initialSchema⟩]

end StatusPage.Database
