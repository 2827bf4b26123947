/-!
# The catalog of built-in types

The types that every PostgreSQL database has besides those that are read or written here, with
their object identifiers. Types of arrays are not listed; they are named after their members.
`_record` stands for rows of any type and is no type of arrays.
-/

namespace BoundSql.Postgres

/-- Names and object identifiers. -/
def catalog : List (String × Nat) :=
  [("char", 18), ("regproc", 24), ("tid", 27), ("xid", 28), ("cid", 29), ("pg_ddl_command", 32),
   ("xml", 142), ("pg_node_tree", 194), ("table_am_handler", 269), ("index_am_handler", 325),
   ("point", 600), ("lseg", 601), ("path", 602), ("box", 603), ("polygon", 604), ("line", 628),
   ("cidr", 650), ("circle", 718), ("macaddr8", 774), ("money", 790), ("macaddr", 829),
   ("inet", 869), ("aclitem", 1033), ("time", 1083), ("interval", 1186), ("timetz", 1266),
   ("bit", 1560), ("varbit", 1562), ("numeric", 1700), ("refcursor", 1790), ("regprocedure", 2202),
   ("regoper", 2203), ("regoperator", 2204), ("regclass", 2205), ("regtype", 2206),
   ("record", 2249), ("cstring", 2275), ("any", 2276), ("anyarray", 2277), ("_record", 2287),
   ("void", 2278), ("trigger", 2279), ("language_handler", 2280), ("internal", 2281),
   ("anyelement", 2283), ("anynonarray", 2776), ("txid_snapshot", 2970), ("fdw_handler", 3115),
   ("pg_lsn", 3220), ("tsm_handler", 3310), ("pg_ndistinct", 3361), ("pg_dependencies", 3402),
   ("anyenum", 3500), ("tsvector", 3614), ("tsquery", 3615), ("gtsvector", 3642),
   ("regconfig", 3734), ("regdictionary", 3769), ("anyrange", 3831), ("event_trigger", 3838),
   ("int4range", 3904), ("numrange", 3906), ("tsrange", 3908), ("tstzrange", 3910),
   ("daterange", 3912), ("int8range", 3926), ("jsonpath", 4072), ("regnamespace", 4089),
   ("regrole", 4096), ("regcollation", 4191), ("int4multirange", 4451), ("nummultirange", 4532),
   ("tsmultirange", 4533), ("tstzmultirange", 4534), ("datemultirange", 4535),
   ("int8multirange", 4536), ("anymultirange", 4537), ("anycompatiblemultirange", 4538),
   ("pg_brin_bloom_summary", 4600), ("pg_brin_minmax_multi_summary", 4601), ("pg_mcv_list", 5017),
   ("pg_snapshot", 5038), ("xid8", 5069), ("anycompatible", 5077), ("anycompatiblearray", 5078),
   ("anycompatiblenonarray", 5079), ("anycompatiblerange", 5080)]

end BoundSql.Postgres
